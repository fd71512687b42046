import CrowdTracking.Login
import CrowdTracking.Tafweej

namespace CrowdTracking
set_option autoImplicit true
open Database

/-- What the code relies on in `getValue(HashMap.class)` of the client library; `none` is null or an
exception. A map has the children of the node, and only a node all of whose keys are numerals may
be turned into a list. -/
structure FirebaseClient where
  hashMap : Option Json → Option (Record Json)
  children : ∀ value r, hashMap value = some r → value = some (.obj r)
  keyed : ∀ r : Record Json, (∃ k ∈ r.keys, ¬k.toList.all Char.isDigit) →
    hashMap (some (.obj r)) = some r

/-- A library that turns every other node into a list. -/
def FirebaseClient.plain : FirebaseClient where
  hashMap
    | some (.obj r) => if ∃ k ∈ r.keys, ¬k.toList.all Char.isDigit then some r else none
    | _ => none
  children value r h := by
    split at h
    · rw [Option.some.inj (Option.ite_none_right_eq_some.1 h).2]
    · cases h
  keyed r h := if_pos h

namespace LoginActivity

/-- Whether the callback goes on to the verification; `none` is an exception. -/
def onDataChange (client : FirebaseClient) (u : SignUp) (value : Option Json) : Option Bool :=
  (client.hashMap value).bind u.accepts

end LoginActivity

namespace ViewController

/-- Whether a press of Login goes on to register a crowd when the sign-in succeeds; `none` is an
exception. -/
def registers (u : Unicode) (database : Json) (campaignInput phonenumberInput : String) :
    Option Bool :=
  (loginHandler u campaignInput phonenumberInput).map fun
    | some a => (a.accepts u (getAt a.path database)).isSome
    | none => false

end ViewController

namespace Credentials

/-- The phone of a campaign, if it is a string. -/
def phone (campaigns : Record Json) (campaign_id : String) : Option String :=
  match (campaigns.get campaign_id).bind (·.child "phone") with
  | some (.str phone) => some phone
  | _ => none

/-- Both callbacks finish, with the same answer. -/
def Agree (client : FirebaseClient) (u : Unicode) (database : Json)
    (campaign_id number : String) : Prop :=
  ∃ accepted, LoginActivity.onDataChange client ⟨campaign_id, number⟩
      (getAt ["Campaign"] database) = some accepted ∧
    ViewController.registers u database campaign_id number = some accepted

/-- The ids, numbers and phones for which lowercasing the id, refusing an empty number and comparing
up to canonical equivalence make no difference. -/
inductive Same (u : Unicode) (campaigns : Record Json) (campaign_id number : String) : Prop where
  | noNumber (hn : number = "") (h : phone campaigns campaign_id ≠ some "")
  | lowercase (hn : number ≠ "") (hid : u.lowercased campaign_id = campaign_id)
      (h : ∀ p ∈ phone campaigns campaign_id, u.equal p number → p = number)
  | both (hn : number ≠ "") (hid : u.lowercased campaign_id ≠ campaign_id)
      (h : phone campaigns campaign_id = some number)
      (hlow : ∃ p ∈ phone campaigns (u.lowercased campaign_id), u.equal p number)
  | neither (hn : number ≠ "") (hid : u.lowercased campaign_id ≠ campaign_id)
      (h : phone campaigns campaign_id ≠ some number)
      (hlow : ∀ p ∈ phone campaigns (u.lowercased campaign_id), ¬u.equal p number)

/-- The `Campaign` tree is a map for the client library, a campaign under the typed id has a string
as its phone, and the differences of the clients make none for the id and the number. -/
def Holds (client : FirebaseClient) (u : Unicode) (database : Json)
    (campaign_id number : String) : Prop :=
  ∃ campaigns ∈ client.hashMap (getAt ["Campaign"] database),
    ((campaigns.get campaign_id).isSome → (phone campaigns campaign_id).isSome) ∧
      Same u campaigns campaign_id number

variable {u : Unicode} {campaigns : Record Json} {campaign_id number : String}

/-- The two ways in which the test of `onDataChange` finishes. -/
theorem accepts_eq_some (accepted : Bool) :
    SignUp.accepts ⟨campaign_id, number⟩ campaigns = some accepted ↔
      ((campaigns.get campaign_id).isSome → (phone campaigns campaign_id).isSome) ∧
        (accepted = true ↔ phone campaigns campaign_id = some number) := by
  simp only [SignUp.accepts, phone]
  cases campaigns.get campaign_id with
  | none => cases accepted <;> simp
  | some c =>
    cases c with
    | obj details =>
      simp only [Option.bind_some, Json.child_obj]
      cases details.get "phone" with
      | none => simp
      | some p => cases p <;> cases accepted <;> simp
    | _ => simp [Json.child, Json.fields]

theorem segments_slash_free (hne : key ≠ "") (h : '/' ∉ key.toList) : segments key = [key] := by
  have hsplit : key.toList.splitOn '/' = [key.toList] := by
    apply List.splitOnP_eq_singleton
    intro c hc
    rw [beq_eq_false_iff_ne]
    rintro rfl
    exact h hc
  have hne : decide (key ≠ "") = true := decide_eq_true hne
  rw [segments, hsplit, List.map_singleton, String.ofList_toList, List.filter_singleton, hne]
  rfl

theorem segments_allowed (h : allowedKey key) : segments key = [key] := by
  simp only [allowedKey, validPath, Bool.and_eq_true, decide_eq_true_eq, List.all_eq_true] at h
  exact segments_slash_free h.1.1 fun hmem => h.2 _ hmem rfl

/-- An equal number makes the default of a missing phone fail. -/
theorem equal_text (data : Record Json) (hn : number ≠ "") :
    u.equal (Model.Campaign.text data "phone") number ↔
      ∃ p, data.get "phone" = some (.str p) ∧ u.equal p number := by
  rw [Model.Campaign.text]
  split
  · rename_i s hs
    simp [hs]
  · rename_i hs
    constructor
    · exact fun h => absurd (u.equal_empty number h) hn
    · rintro ⟨p, hp, -⟩
      exact absurd hp (hs p)

theorem accepts_iff (hn : number ≠ "") (hid : allowedKey key) :
    (Attempt.accepts u ⟨key, number⟩ (campaigns.get key)).isSome ↔
      ∃ p ∈ phone campaigns key, u.equal p number := by
  have hkey : Attempt.key ⟨key, number⟩ = key := by
    rw [Attempt.key, Attempt.path, segments_allowed hid]
    rfl
  rw [phone]
  cases campaigns.get key with
  | none => simp [Attempt.accepts]
  | some c =>
    cases c with
    | obj data =>
      have hacc : Attempt.accepts u ⟨key, number⟩ (some (.obj data)) =
          if u.equal (Model.Campaign.text data "phone") number ∧
              u.equal (Attempt.key ⟨key, number⟩) key then
            some ⟨Attempt.key ⟨key, number⟩, data⟩
          else none := rfl
      have htext := equal_text (u := u) data hn
      rw [hacc, hkey, Option.isSome_ite, htext, and_iff_left (u.equal_self key), Option.bind_some,
        Json.child_obj]
      cases data.get "phone" with
      | none => simp
      | some p => cases p <;> simp
    | _ => simp [Attempt.accepts, Json.child, Json.fields]

theorem getAt_campaign (hc : getAt ["Campaign"] database = some (.obj campaigns)) (k : String) :
    getAt ["Campaign", k] database = campaigns.get k := by
  have h : getAt ["Campaign", k] database = (getAt ["Campaign"] database).bind (·.child k) := by
    simp only [getAt, Option.bind_fun_some]
  rw [h, hc]
  rfl

/-- The callback finishes for every allowed id. -/
theorem registers_eq_some (hc : getAt ["Campaign"] database = some (.obj campaigns))
    (hid : allowedKey campaign_id) (accepted : Bool) :
    ViewController.registers u database campaign_id number = some accepted ↔
      (accepted = true ↔ number ≠ "" ∧
        ∃ p ∈ phone campaigns (u.lowercased campaign_id), u.equal p number) := by
  have hlow := u.lowercased_allowed campaign_id hid
  have hpath : validPath (u.lowercased campaign_id) := (Bool.and_eq_true_iff.1 hlow).1
  have hne : u.lowercased campaign_id ≠ "" := by
    intro h
    rw [h] at hlow
    exact absurd hlow (by decide)
  by_cases hn : number = ""
  · have hreg : ViewController.registers u database campaign_id number = some false := by
      simp only [ViewController.registers, ViewController.loginHandler, hn, or_true, ↓reduceIte,
        Option.map_some]
    rw [hreg]
    cases accepted <;> simp [hn]
  · have hreg : ViewController.registers u database campaign_id number =
        some (Attempt.accepts u ⟨u.lowercased campaign_id, number⟩
          (campaigns.get (u.lowercased campaign_id))).isSome := by
      simp only [ViewController.registers, ViewController.loginHandler, hne, hn, or_self, hpath,
        ↓reduceIte, Option.map_some, Attempt.path, segments_allowed hlow, getAt_campaign hc]
    rw [hreg, ← accepts_iff hn hlow, Option.some.injEq, and_iff_right hn]
    exact ⟨fun h => by rw [h], fun h => Bool.eq_iff_iff.2 h.symm⟩

/-- On these cases the two tests of the phone give the same answer, and on no others. -/
theorem same_iff : Same u campaigns campaign_id number ↔
    (phone campaigns campaign_id = some number ↔ number ≠ "" ∧
      ∃ p ∈ phone campaigns (u.lowercased campaign_id), u.equal p number) := by
  by_cases hn : number = ""
  · subst hn
    constructor
    · intro h
      cases h with
      | noNumber _ h => exact iff_of_false h fun hlow => hlow.1 rfl
      | lowercase hn | both hn | neither hn => exact absurd rfl hn
    · exact fun h => .noNumber rfl fun hphone => (h.1 hphone).1 rfl
  · rw [and_iff_right hn]
    by_cases hid : u.lowercased campaign_id = campaign_id
    · rw [hid]
      constructor
      · intro h
        cases h with
        | noNumber hn' => exact absurd hn' hn
        | both _ hid' | neither _ hid' => exact absurd hid hid'
        | lowercase _ _ h =>
          refine ⟨fun hphone => ⟨number, hphone, u.equal_self number⟩, ?_⟩
          rintro ⟨p, hp, hequal⟩
          rwa [h p hp hequal] at hp
      · refine fun h => .lowercase hn hid fun p hp hequal => ?_
        exact Option.some.inj (hp.symm.trans (h.2 ⟨p, hp, hequal⟩))
    · constructor
      · intro h
        cases h with
        | noNumber hn' => exact absurd hn' hn
        | lowercase _ hid' => exact absurd hid' hid
        | both _ _ h hlow => exact iff_of_true h hlow
        | neither _ _ h hlow => exact iff_of_false h fun ⟨p, hp, hequal⟩ => hlow p hp hequal
      · intro h
        by_cases hphone : phone campaigns campaign_id = some number
        · exact .both hn hid hphone (h.1 hphone)
        · exact .neither hn hid hphone fun p hp hequal => hphone (h.2 ⟨p, hp, hequal⟩)

/-- The clients agree on an allowed id exactly when the tree is a map, a campaign under the typed
id has a string as its phone, and their differences make none for the id and the number. -/
theorem same_credentials (client : FirebaseClient) (u : Unicode) (database : Json)
    (campaign_id number : String) (hid : allowedKey campaign_id) :
    Agree client u database campaign_id number ↔ Holds client u database campaign_id number := by
  constructor
  · rintro ⟨accepted, handroid, hios⟩
    obtain ⟨campaigns, hmap, haccepts⟩ := Option.bind_eq_some_iff.1 handroid
    obtain ⟨htext, hphone⟩ := (accepts_eq_some accepted).1 haccepts
    have hreg := (registers_eq_some (client.children _ _ hmap) hid accepted).1 hios
    exact ⟨campaigns, hmap, htext, same_iff.2 (hphone.symm.trans hreg)⟩
  · rintro ⟨campaigns, hmap, htext, hsame⟩
    refine ⟨decide (phone campaigns campaign_id = some number), ?_, ?_⟩
    · exact Option.bind_eq_some_iff.2
        ⟨campaigns, hmap, (accepts_eq_some _).2 ⟨htext, decide_eq_true_iff⟩⟩
    · rw [registers_eq_some (client.children _ _ hmap) hid, decide_eq_true_iff]
      exact same_iff.1 hsame

/-- A database with one campaign. -/
def oneCampaign (campaign_id phone : String) : Json :=
  .obj (Record.empty.put "Campaign" (.obj (Record.empty.put campaign_id
    (.obj (Record.empty.put "phone" (.str phone))))))

/-- Both accept a campaign whose id is its own lowercase. -/
theorem same_credentials_lowercase :
    Agree .plain .ascii (oneCampaign "campaign_id" "05599222105") "campaign_id" "05599222105" ∧
      Holds .plain .ascii (oneCampaign "campaign_id" "05599222105") "campaign_id"
        "05599222105" := by
  have hholds : Holds .plain .ascii (oneCampaign "campaign_id" "05599222105") "campaign_id"
      "05599222105" := by
    refine ⟨_, rfl, by decide +kernel, .lowercase (by decide) (by decide +kernel) ?_⟩
    rintro p ⟨⟩ -
    rfl
  exact ⟨(same_credentials _ _ _ _ _ (by decide +kernel)).2 hholds, hholds⟩

/-- Android takes the id as it is typed and iOS looks for it in lower case. -/
theorem uppercase_id :
    ¬∀ (client : FirebaseClient) (u : Unicode) (database : Json) (campaign_id number : String),
      allowedKey campaign_id → Agree client u database campaign_id number := by
  intro h
  obtain ⟨accepted, handroid, hios⟩ :=
    h .plain .ascii (oneCampaign "AAA" "055") "AAA" "055" (by decide +kernel)
  have haccepts : LoginActivity.onDataChange .plain ⟨"AAA", "055"⟩
      (getAt ["Campaign"] (oneCampaign "AAA" "055")) = some true := by
    decide +kernel
  have hregisters : ViewController.registers .ascii (oneCampaign "AAA" "055") "AAA" "055" =
      some false := by
    decide +kernel
  rw [handroid, Option.some.injEq] at haccepts
  rw [hios, haccepts] at hregisters
  cases hregisters

end Credentials

end CrowdTracking
