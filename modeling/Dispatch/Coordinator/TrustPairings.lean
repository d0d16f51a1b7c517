import Dispatch.Coordinator.TrustRouter

/-! # Histories of trust pairings

What the table of pairings holds after any requests to its routes.
-/

namespace Dispatch.Coordinator.TrustRouter

open Sqlite

/-! ## What the table records -/

structure Recorded (history : List Occurrence) (table : Table) : Prop where
  created : ∀ code userId, (∃ time, .created code userId time ∈ history) ↔
    ∃ id row, table.get? id = some row ∧ row.pairingCode = code ∧
      row.userId = userId
  claimed : ∀ code providerPubkey,
    (∃ time, .claimed code providerPubkey time ∈ history) ↔
      ∃ id row, table.get? id = some row ∧ row.pairingCode = code ∧
        row.claimed = true ∧ row.providerPubkey = providerPubkey
  codes : ∀ id other row otherRow, table.get? id = some row →
    table.get? other = some otherRow →
    row.pairingCode = otherRow.pairingCode → id = other
  createdOnce : (history.filterMap Occurrence.createdCode?).Nodup
  claimedOnce : (history.filterMap Occurrence.claimedCode?).Nodup

section Recorded

variable {Number : Type} [JsNumber Number] [SqlNumber Number]
  {history : List Occurrence} {table : Table}

theorem Recorded.initial : Recorded [] .empty where
  created := by simp
  claimed := by simp
  codes _ _ _ _ stored := by cases stored
  createdOnce := .nil
  claimedOnce := .nil

theorem Recorded.createdCode (recorded : Recorded history table)
    {code : String} (member : code ∈ history.filterMap
      Occurrence.createdCode?) :
    ∃ id row, table.get? id = some row ∧ row.pairingCode = code := by
  rcases List.mem_filterMap.mp member with ⟨occurrence, told, about⟩
  cases occurrence with
  | claimed => cases about
  | created other userId time =>
    cases about
    rcases (recorded.created code userId).mp ⟨time, told⟩ with
      ⟨id, row, stored, same, _⟩
    exact ⟨id, row, stored, same⟩

theorem Recorded.claimedCode (recorded : Recorded history table)
    {code : String} (member : code ∈ history.filterMap
      Occurrence.claimedCode?) :
    ∃ id row, table.get? id = some row ∧ row.pairingCode = code ∧
      row.claimed = true := by
  rcases List.mem_filterMap.mp member with ⟨occurrence, told, about⟩
  cases occurrence with
  | created => cases about
  | claimed other providerPubkey time =>
    cases about
    rcases (recorded.claimed code providerPubkey).mp ⟨time, told⟩ with
      ⟨id, row, stored, same, claimed, _⟩
    exact ⟨id, row, stored, same, claimed⟩

theorem Recorded.insert (recorded : Recorded history table) {id : String}
    (row : TrustRow) (time : Nat) (freshId : table.get? id = none)
    (freshCode : ∀ other otherRow, table.get? other = some otherRow →
      otherRow.pairingCode ≠ row.pairingCode)
    (unclaimed : row.claimed = false) :
    Recorded (history ++ [.created row.pairingCode row.userId time])
      (table.set id row) := by
  have lookup := OrderedMap.get?_set_eq_some_iff freshId row
  constructor
  · intro code userId
    simp only [List.mem_append, List.mem_singleton, lookup, exists_or,
      recorded.created code userId, Occurrence.created.injEq]
    constructor
    · rintro (⟨other, otherRow, stored, facts⟩ | ⟨_, rfl, rfl, _⟩)
      · exact ⟨other, otherRow, .inr stored, facts⟩
      · exact ⟨id, row, .inl ⟨rfl, rfl⟩, rfl, rfl⟩
    · rintro ⟨other, otherRow, ⟨rfl, rfl⟩ | stored, sameCode, sameUser⟩
      · exact .inr ⟨time, sameCode.symm, sameUser.symm, rfl⟩
      · exact .inl ⟨other, otherRow, stored, sameCode, sameUser⟩
  · intro code providerPubkey
    simp only [List.mem_append, List.mem_singleton, reduceCtorEq, or_false,
      lookup, recorded.claimed code providerPubkey]
    constructor
    · rintro ⟨other, otherRow, stored, facts⟩
      exact ⟨other, otherRow, .inr stored, facts⟩
    · rintro ⟨other, otherRow, ⟨rfl, rfl⟩ | stored, facts⟩
      · rw [unclaimed] at facts
        cases facts.2.1
      · exact ⟨other, otherRow, stored, facts⟩
  · intro first second firstRow secondRow firstStored secondStored same
    rcases (lookup ..).mp firstStored with ⟨rfl, rfl⟩ | firstOld <;>
      rcases (lookup ..).mp secondStored with ⟨rfl, rfl⟩ | secondOld
    · rfl
    · exact absurd same.symm (freshCode _ _ secondOld)
    · exact absurd same (freshCode _ _ firstOld)
    · exact recorded.codes _ _ _ _ firstOld secondOld same
  · rw [List.filterMap_append, List.nodup_append]
    refine ⟨recorded.createdOnce, List.nodup_singleton _, ?_⟩
    intro code member new isNew equal
    rcases recorded.createdCode member with ⟨other, otherRow, stored, same⟩
    rw [List.mem_singleton.mp isNew] at equal
    exact freshCode other otherRow stored (same.trans equal)
  · rw [List.filterMap_append]
    exact (List.append_nil _).symm ▸ recorded.claimedOnce

theorem Recorded.claim (recorded : Recorded history table) {id : String}
    {row : TrustRow} (providerPubkey : Option String) (time : Nat)
    (stored : table.get? id = some row) (unclaimed : row.claimed = false) :
    Recorded (history ++ [.claimed row.pairingCode providerPubkey time])
      (table.modify id fun row =>
        { row with claimed := true, providerPubkey := providerPubkey }) := by
  have lookup := OrderedMap.get?_modify_eq_some_iff stored fun row =>
    { row with claimed := true, providerPubkey := providerPubkey }
  constructor
  · intro code userId
    simp only [List.mem_append, List.mem_singleton, reduceCtorEq, or_false,
      lookup, recorded.created code userId]
    constructor
    · rintro ⟨other, otherRow, otherStored, facts⟩
      by_cases same : other = id
      · subst same
        rw [stored] at otherStored
        cases otherStored
        exact ⟨other, _, .inl ⟨rfl, rfl⟩, facts⟩
      · exact ⟨other, otherRow, .inr ⟨same, otherStored⟩, facts⟩
    · rintro ⟨other, otherRow, ⟨rfl, rfl⟩ | ⟨_, otherStored⟩, facts⟩
      · exact ⟨other, row, stored, facts⟩
      · exact ⟨other, otherRow, otherStored, facts⟩
  · intro code pubkey
    simp only [List.mem_append, List.mem_singleton, lookup, exists_or,
      recorded.claimed code pubkey, Occurrence.claimed.injEq]
    constructor
    · rintro (⟨other, otherRow, otherStored, facts⟩ | ⟨_, rfl, rfl, _⟩)
      · refine ⟨other, otherRow, .inr ⟨?_, otherStored⟩, facts⟩
        rintro rfl
        rw [stored] at otherStored
        cases otherStored
        rw [unclaimed] at facts
        cases facts.2.1
      · exact ⟨id, _, .inl ⟨rfl, rfl⟩, rfl, rfl, rfl⟩
    · rintro ⟨other, otherRow, ⟨rfl, rfl⟩ | ⟨_, otherStored⟩, facts⟩
      · exact .inr ⟨time, facts.1.symm, facts.2.2.symm, rfl⟩
      · exact .inl ⟨other, otherRow, otherStored, facts⟩
  · -- a claim changes no code
    intro first second firstRow secondRow firstStored secondStored same
    rcases (lookup ..).mp firstStored with ⟨rfl, rfl⟩ | ⟨_, firstOld⟩ <;>
      rcases (lookup ..).mp secondStored with ⟨rfl, rfl⟩ | ⟨_, secondOld⟩
    · rfl
    · exact recorded.codes _ _ _ _ stored secondOld same
    · exact recorded.codes _ _ _ _ firstOld stored same
    · exact recorded.codes _ _ _ _ firstOld secondOld same
  · rw [List.filterMap_append]
    exact (List.append_nil _).symm ▸ recorded.createdOnce
  · rw [List.filterMap_append, List.nodup_append]
    refine ⟨recorded.claimedOnce, List.nodup_singleton _, ?_⟩
    intro code member new isNew equal
    rcases recorded.claimedCode member with
      ⟨other, otherRow, otherStored, same, claimed⟩
    rw [List.mem_singleton.mp isNew] at equal
    -- the row with this code is the one that was not claimed
    have sameRow := recorded.codes _ _ _ _ otherStored stored
      (same.trans equal)
    rw [sameRow, stored] at otherStored
    cases otherStored
    rw [unclaimed] at claimed
    cases claimed

theorem step_recorded (input : Input Number)
    (recorded : Recorded history table) :
    Recorded (history ++ occurrences table input) (step table input) := by
  unfold step occurrences
  have outcome := handle_outcome table input
  generalize handle table input = result at outcome
  cases outcome with
  | thrown error =>
    cases input.request <;> exact (List.append_nil history).symm ▸ recorded
  | @refused reply refusal =>
    have silent : Recorded (history ++ []) table :=
      (List.append_nil history).symm ▸ recorded
    cases input.request <;> cases reply <;>
      first | exact silent | cases refusal
  | @created random _ _ _ userId request given bound freshId freshCode =>
    simp only [request, boundText?_of_bindOne given bound, Value.text?]
    exact recorded.insert
      { userId := userId, providerPubkey := none,
        pairingCode := pairingCode random, claimed := false,
        expiresAt := input.now + 60 * 60 * 1000, createdAt := input.now }
      input.now freshId freshCode rfl
  | claimed request given bound stored code unclaimed inTime =>
    simp only [request, boundText?_of_bindOne given bound, code]
    exact recorded.claim _ input.now stored unclaimed

end Recorded

/-! ## Rows -/

section Rows

variable {Number : Type} [JsNumber Number] [SqlNumber Number]
  {table : Table} {input : Input Number}

def AllRows (Property : TrustRow → Prop) (table : Table) : Prop :=
  ∀ id row, table.get? id = some row → Property row

theorem AllRows.set {Property : TrustRow → Prop}
    (all : AllRows Property table) {id : String} {row : TrustRow}
    (new : Property row) : AllRows Property (table.set id row) := by
  intro other otherRow stored
  rw [OrderedMap.get?_set] at stored
  split_ifs at stored
  · cases stored
    exact new
  · exact all other otherRow stored

theorem AllRows.modify {Property : TrustRow → Prop}
    (all : AllRows Property table) {id : String}
    {change : TrustRow → TrustRow}
    (kept : ∀ row, Property row → Property (change row)) :
    AllRows Property (table.modify id change) := by
  intro other otherRow stored
  rw [OrderedMap.get?_modify] at stored
  split_ifs at stored
  · rcases Option.map_eq_some_iff.mp stored with ⟨row, found, rfl⟩
    exact kept row (all other row found)
  · exact all other otherRow stored

def Hourly (row : TrustRow) : Prop :=
  row.expiresAt = row.createdAt + 60 * 60 * 1000

theorem step_hourly (input : Input Number) (hourly : AllRows Hourly table) :
    AllRows Hourly (step table input) := by
  unfold step
  have outcome := handle_outcome table input
  generalize handle table input = result at outcome
  cases outcome with
  | thrown | refused => exact hourly
  | created => exact hourly.set rfl
  | claimed => exact hourly.modify fun _ kept => kept

def Linked (row : TrustRow) : Prop :=
  row.providerPubkey.isSome = row.claimed ∧ row.userId ≠ ""

/-- `[null]`, which is bound as `NULL`. -/
def isNullInArray : Option (Json Number) → Bool
  | some (.array (.cons .null .nil)) => true
  | _ => false

def isEmptyInArray : Option (Json Number) → Bool
  | some (.array (.cons (.string []) .nil)) => true
  | _ => false

def Input.isCareful (input : Input Number) : Bool :=
  match input.request with
  | .create _ body => !isEmptyInArray (field body "user_id")
  | .claim body => !isNullInArray (field body "provider_pubkey")

theorem isNullInArray_of_bound {sent : Json Number}
    (truthy : sent.truthy = true) (bound : bindOne (some sent) = .ok .null) :
    isNullInArray (some sent) = true := by
  rcases bindOne_ok bound with itself | ⟨item, rfl, itemBound⟩
  · cases sent with
    | null => cases truthy
    | _ => cases itself
  · cases item with
    | null => rfl
    | _ => cases itemBound

theorem isEmptyInArray_of_bound {sent : Json Number}
    (truthy : sent.truthy = true)
    (bound : bindOne (some sent) = .ok (.text "")) :
    isEmptyInArray (some sent) = true := by
  have cases_text : ∀ value : Json Number,
      bindValue (some value) = .ok (.text "") → value = .string [] := by
    intro value valueBound
    cases value with
    | string string =>
      simp only [bindValue, Except.ok.injEq, Value.text.injEq] at valueBound
      rw [JsString.eq_nil_of_toText_eq_empty valueBound]
    | number number =>
      simp only [bindValue, Except.ok.injEq, Value.text.injEq] at valueBound
      exact absurd valueBound (SqlNumber.column_ne_empty number)
    | _ => cases valueBound
  rcases bindOne_ok bound with itself | ⟨item, rfl, itemBound⟩
  · rw [cases_text _ itself] at truthy
    cases truthy
  · rw [cases_text _ itemBound]
    rfl

theorem step_linked (careful : input.isCareful = true)
    (linked : AllRows Linked table) :
    AllRows Linked (step table input) := by
  unfold step
  have outcome := handle_outcome table input
  generalize handle table input = result at outcome
  cases outcome with
  | thrown | refused => exact linked
  | @created random body _ sent userId request given bound =>
    refine linked.set ⟨rfl, ?_⟩
    rintro rfl
    rw [Option.filter_eq_some_iff] at given
    simp only [Input.isCareful, request, given.1,
      isEmptyInArray_of_bound given.2 bound] at careful
    cases careful
  | @claimed body _ _ sent providerPubkey request given bound =>
    apply linked.modify
    intro row kept
    refine ⟨?_, kept.2⟩
    cases providerPubkey with
    | text => rfl
    | null =>
      rw [Option.filter_eq_some_iff] at given
      simp only [Input.isCareful, request, given.1,
        isNullInArray_of_bound given.2 bound] at careful
      cases careful

end Rows

/-! ## Whole histories -/

section Histories

variable {Number : Type} [JsNumber Number] [SqlNumber Number]
  {history : List Occurrence} {table : Table}

structure StepSound (table : Table) (input : Input Number) : Prop where
  kept : ∀ id row, table.get? id = some row →
    ∃ later, (step table input).get? id = some later ∧
      later.userId = row.userId ∧ later.pairingCode = row.pairingCode ∧
      (row.claimed = true → later = row)
  inTime : ∀ body, input.request = .claim body →
    accepts table input = true →
    ∃ id row, table.get? id = some row ∧
      boundText? body "pairing_code" = some row.pairingCode ∧
      row.claimed = false ∧ input.now ≤ row.createdAt + 60 * 60 * 1000
  rejected : accepts table input = false → step table input = table

structure Sound (history : List Occurrence) (table : Table) : Prop where
  createdOnce : (history.filterMap Occurrence.createdCode?).Nodup
  claimedOnce : (history.filterMap Occurrence.claimedCode?).Nodup
  distinct : (table.values.map TrustRow.pairingCode).Nodup
  linked : ∀ id row, table.get? id = some row →
    row.providerPubkey.isSome = row.claimed
  listed : ∀ userId, (listedFor userId table).Perm (claimedFor userId history)

theorem step_kept (input : Input Number) {id : String} {row : TrustRow}
    (stored : table.get? id = some row) :
    ∃ later, (step table input).get? id = some later ∧
      later.userId = row.userId ∧ later.pairingCode = row.pairingCode ∧
      (row.claimed = true → later = row) := by
  unfold step
  have outcome := handle_outcome table input
  generalize handle table input = result at outcome
  cases outcome with
  | thrown | refused => exact ⟨row, stored, rfl, rfl, fun _ => rfl⟩
  | @created _ _ other _ _ _ _ _ freshId _ =>
    have different : id ≠ other := by
      rintro rfl
      rw [freshId] at stored
      cases stored
    refine ⟨row, ?_, rfl, rfl, fun _ => rfl⟩
    rw [OrderedMap.get?_set, if_neg different, stored]
  | @claimed _ other otherRow _ providerPubkey _ _ _ found _ unclaimed _ =>
    rw [OrderedMap.get?_modify]
    split_ifs with same
    · subst same
      rw [stored] at found
      cases found
      rw [stored, Option.map_some]
      refine ⟨_, rfl, rfl, rfl, ?_⟩
      intro claimed
      rw [unclaimed] at claimed
      cases claimed
    · exact ⟨row, stored, rfl, rfl, fun _ => rfl⟩

theorem step_sound (input : Input Number) (hourly : AllRows Hourly table) :
    StepSound table input where
  kept _ _ stored := step_kept input stored
  inTime body request accepted := by
    unfold accepts at accepted
    have outcome := handle_outcome table input
    generalize handle table input = result at outcome accepted
    cases outcome with
    | thrown => cases accepted
    | refused refusal => exact absurd accepted (by simp [refusal])
    | created created => rw [request] at created; cases created
    | claimed claimed _ _ stored code unclaimed inTime =>
      rw [request] at claimed
      cases claimed
      exact ⟨_, _, stored, code, unclaimed, hourly _ _ stored ▸ inTime⟩
  rejected refused := by
    unfold accepts at refused
    unfold step
    have outcome := handle_outcome table input
    generalize handle table input = result at outcome refused
    cases outcome with
    | thrown | refused => rfl
    | created | claimed => cases refused

theorem Recorded.distinct (recorded : Recorded history table) :
    (table.values.map TrustRow.pairingCode).Nodup := by
  rw [OrderedMap.values, List.map_map]
  apply List.Nodup.map_on _ (List.Nodup.of_map _ table.nodup)
  rintro ⟨id, row⟩ member ⟨other, otherRow⟩ otherMember same
  have stored := (table.get?_eq_some_iff ..).mpr member
  have otherStored := (table.get?_eq_some_iff ..).mpr otherMember
  have sameId := recorded.codes _ _ _ _ stored otherStored same
  subst sameId
  rw [stored] at otherStored
  cases otherStored
  rfl

/-! The list and the history are compared code by code: a code stands for one
row and for one claim, so that both sides hold every pair of a code and a key
once. -/

def listedPairs (userId : String) (table : Table) :
    List (String × Option String) :=
  (table.values.filter fun row => row.userId = userId && row.claimed).map
    fun row => (row.pairingCode, row.providerPubkey)

def claimedPair? (userId : String) (history : List Occurrence) :
    Occurrence → Option (String × Option String)
  | .created _ _ _ => none
  | .claimed code providerPubkey _ =>
    if history.any (Occurrence.isCreatedFor code userId) then
      some (code, providerPubkey)
    else
      none

theorem listedFor_eq {userId : String} (linked : AllRows Linked table) :
    listedFor userId table = (listedPairs userId table).map Prod.snd := by
  rw [listedPairs, List.map_map]
  by_cases named : userId = ""
  · -- the request is refused, and no row is the nameless user's
    have nobody : (table.values.filter fun row =>
        row.userId = userId && row.claimed) = [] := by
      rw [List.filter_eq_nil_iff]
      intro row member
      rcases (table.mem_values_iff row).mp member with ⟨id, stored⟩
      have hasName := (linked id row stored).2
      simp [named, hasName]
    rw [nobody, named]
    rfl
  · have given : (some userId).filter (· ≠ "") = some userId := by
      simp [Option.filter, named]
    rw [listedFor, list, given]
    exact List.map_map

theorem claimedFor_eq (userId : String) (history : List Occurrence) :
    claimedFor userId history =
      (history.filterMap (claimedPair? userId history)).map Prod.snd := by
  rw [claimedFor, List.map_filterMap]
  apply List.filterMap_congr
  intro occurrence _
  cases occurrence with
  | created => rfl
  | claimed code providerPubkey time =>
    simp only [claimedPair?]
    split_ifs <;> rfl

theorem claimedPair?_codes (userId : String)
    (history part : List Occurrence) :
    ((part.filterMap (claimedPair? userId history)).map Prod.fst).Sublist
      (part.filterMap Occurrence.claimedCode?) := by
  induction part with
  | nil => exact .slnil
  | cons occurrence rest induction =>
    cases occurrence with
    | created => exact induction
    | claimed code providerPubkey time =>
      simp only [List.filterMap_cons, claimedPair?,
        Occurrence.claimedCode?]
      split_ifs with created
      · exact induction.cons_cons code
      · exact induction.cons code

theorem Recorded.isCreatedFor_iff (recorded : Recorded history table)
    (code userId : String) :
    history.any (Occurrence.isCreatedFor code userId) = true ↔
      ∃ id row, table.get? id = some row ∧ row.pairingCode = code ∧
        row.userId = userId := by
  rw [← recorded.created, List.any_eq_true]
  constructor
  · rintro ⟨occurrence, member, test⟩
    cases occurrence with
    | claimed => cases test
    | created other user time =>
      simp only [Occurrence.isCreatedFor, Bool.and_eq_true,
        decide_eq_true_eq] at test
      rcases test with ⟨rfl, rfl⟩
      exact ⟨time, member⟩
  · rintro ⟨time, member⟩
    exact ⟨_, member, by simp [Occurrence.isCreatedFor]⟩

theorem Recorded.mem_listedPairs_iff (recorded : Recorded history table)
    (userId code : String) (providerPubkey : Option String) :
    (code, providerPubkey) ∈ listedPairs userId table ↔
      (code, providerPubkey) ∈
        history.filterMap (claimedPair? userId history) := by
  have left : (code, providerPubkey) ∈ listedPairs userId table ↔
      ∃ id row, table.get? id = some row ∧ row.userId = userId ∧
        row.claimed = true ∧ row.pairingCode = code ∧
        row.providerPubkey = providerPubkey := by
    simp only [listedPairs, List.mem_map, List.mem_filter,
      OrderedMap.mem_values_iff, Bool.and_eq_true, decide_eq_true_eq,
      Prod.mk.injEq]
    constructor
    · rintro ⟨row, ⟨⟨id, stored⟩, user, claimed⟩, same, key⟩
      exact ⟨id, row, stored, user, claimed, same, key⟩
    · rintro ⟨id, row, stored, user, claimed, same, key⟩
      exact ⟨row, ⟨⟨id, stored⟩, user, claimed⟩, same, key⟩
  have right : (code, providerPubkey) ∈
        history.filterMap (claimedPair? userId history) ↔
      (∃ time, .claimed code providerPubkey time ∈ history) ∧
        history.any (Occurrence.isCreatedFor code userId) = true := by
    rw [List.mem_filterMap]
    constructor
    · rintro ⟨occurrence, member, about⟩
      cases occurrence with
      | created => cases about
      | claimed other key time =>
        simp only [claimedPair?] at about
        split_ifs at about with created
        cases about
        exact ⟨⟨time, member⟩, created⟩
    · rintro ⟨⟨time, member⟩, created⟩
      exact ⟨_, member, by simp [claimedPair?, created]⟩
  rw [left, right, recorded.claimed, recorded.isCreatedFor_iff]
  constructor
  · rintro ⟨id, row, stored, user, claimed, same, key⟩
    exact ⟨⟨id, row, stored, same, claimed, key⟩, id, row, stored, same, user⟩
  · rintro ⟨⟨id, row, stored, same, claimed, key⟩,
      other, otherRow, otherStored, otherSame, user⟩
    have sameId := recorded.codes _ _ _ _ stored otherStored
      (same.trans otherSame.symm)
    subst sameId
    rw [stored] at otherStored
    cases otherStored
    exact ⟨id, row, stored, user, claimed, same, key⟩

theorem Recorded.listed (recorded : Recorded history table)
    (linked : AllRows Linked table) (userId : String) :
    (listedFor userId table).Perm (claimedFor userId history) := by
  rw [listedFor_eq linked, claimedFor_eq]
  apply List.Perm.map
  rw [List.perm_ext_iff_of_nodup]
  · rintro ⟨code, providerPubkey⟩
    exact recorded.mem_listedPairs_iff userId code providerPubkey
  · have codes : ((listedPairs userId table).map Prod.fst).Nodup := by
      rw [listedPairs, List.map_map]
      exact (List.filter_sublist.map _).nodup recorded.distinct
    exact .of_map _ codes
  · exact .of_map _ ((claimedPair?_codes userId history history).nodup
      recorded.claimedOnce)

theorem Recorded.sound (recorded : Recorded history table)
    (linked : AllRows Linked table) : Sound history table where
  createdOnce := recorded.createdOnce
  claimedOnce := recorded.claimedOnce
  distinct := recorded.distinct
  linked id row stored := (linked id row stored).1
  listed := recorded.listed linked

theorem reachable_hourly (reachable : (machine Number).Reachable table) :
    AllRows Hourly table := by
  apply reachable.invariant (AllRows Hourly)
  · intro id row stored
    cases stored
  · intro state input _ hourly _
    exact step_hourly input hourly

structure Kept (history : List Occurrence) (table : Table) : Prop where
  recorded : Recorded history table
  linked : AllRows Linked table

/-- In every history without a missing value hidden in an array, codes are good
for one claim within the hour, a claimed row is final, what is refused changes
nothing, and every user's list is right. -/
theorem pairings_sound_if_careful {events : List (Input Number)}
    {final : Table} (run : (machine Number).Run .empty events final)
    (careful : (machine Number).Steps (fun _ input => input.isCareful = true)
      .empty events) :
    (machine Number).Steps StepSound .empty events ∧
      Sound ((machine Number).observe occurrences .empty events) final := by
  constructor
  · apply run.steps _ .start careful
    intro state input reachable _ _
    exact step_sound input (reachable_hourly reachable)
  · have kept : Kept
        ([] ++ (machine Number).observe occurrences .empty events) final := by
      apply run.observes _ .start careful
      · exact ⟨.initial, fun id row stored => by cases stored⟩
      · intro history state input _ kept _ careful
        exact ⟨step_recorded input kept.recorded,
          step_linked careful kept.linked⟩
    exact kept.recorded.sound kept.linked

end Histories

namespace Sample

def pairing (claimBody : String) : List (Input Empty) :=
  [{ now := 0, uuid := Coordinator.Sample.jobUuid,
     request := .create (0xa3, 0xf2, 0xb1)
       (Json.parse "\x7b\"user_id\":\"user\"\x7d") },
   { now := 60 * 60 * 1000, uuid := Coordinator.Sample.otherUuid,
     request := .claim (Json.parse claimBody) }]

def byText : String :=
  "\x7b\"pairing_code\":\"A3F2B1\",\"provider_pubkey\":\"d75a98\"\x7d"

def byNull : String :=
  "\x7b\"pairing_code\":\"A3F2B1\",\"provider_pubkey\":[null]\x7d"

end Sample

theorem pairings_sound_if_careful_claimed :
    (machine Empty).Steps StepSound .empty (Sample.pairing Sample.byText) ∧
      Sound ((machine Empty).observe occurrences .empty
          (Sample.pairing Sample.byText))
        ((machine Empty).exec .empty (Sample.pairing Sample.byText)) ∧
      listedFor "user" ((machine Empty).exec .empty
        (Sample.pairing Sample.byText)) = [some "d75a98"] := by
  have sound := pairings_sound_if_careful
    (.cons trivial (.cons trivial (.nil _)))
    (show (machine Empty).Steps (fun _ input => input.isCareful = true) .empty
      (Sample.pairing Sample.byText) by decide +kernel)
  exact ⟨sound.1, sound.2, by decide +kernel⟩

theorem pairing_claimed_without_pubkey :
    ∃ final, (machine Empty).Run .empty (Sample.pairing Sample.byNull) final ∧
      (final.get? Coordinator.Sample.jobUuid.text).map (fun row =>
        (row.claimed, row.providerPubkey)) = some (true, none) ∧
      listedFor "user" final = [none] ∧
      ¬ Sound ((machine Empty).observe occurrences .empty
        (Sample.pairing Sample.byNull)) final := by
  have row : (((machine Empty).exec .empty (Sample.pairing Sample.byNull)).get?
      Coordinator.Sample.jobUuid.text).map (fun row =>
        (row.claimed, row.providerPubkey)) = some (true, none) := by
    decide +kernel
  refine ⟨_, .cons trivial (.cons trivial (.nil _)), row, by decide +kernel, ?_⟩
  intro sound
  rcases Option.map_eq_some_iff.mp row with ⟨row, stored, fields⟩
  have linked := sound.linked _ row stored
  rw [(Prod.mk.inj fields).1, (Prod.mk.inj fields).2] at linked
  cases linked

end Dispatch.Coordinator.TrustRouter
