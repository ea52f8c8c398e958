import DocSite.Json.Reader
import Mathlib.Data.List.Nodup

/-!
# Steps of reading JSON

What a key does to the keys of an object, and what a token does to the machine that reads: `Reader.Step` has one case
for each place where a token can stand.
-/

namespace DocSite.Json

/-! ## §1 Keys -/

/-- Keys with one more, unless it is there already. -/
def addKey (keys : List Text) (key : Text) : List Text := if key ∈ keys then keys else keys ++ [key]

theorem map_fst_setField {α : Type} (key : Text) (value : α) (fields : List (Text × α)) :
    (setField key value fields).map (·.1) = addKey (fields.map (·.1)) key := by
  induction fields with
  | nil => rfl
  | cons field fields ih =>
    rw [setField]
    by_cases same : field.1 = key
    · simp [addKey, same]
    · rw [if_neg same, List.map_cons, ih, addKey, addKey, List.map_cons]
      simp only [List.mem_cons, Ne.symm same, false_or]
      split
      · rfl
      · rfl

/-- Keys that are added one after the other are added once each. -/
theorem foldl_addKey (keys given : List Text) :
    given.foldl addKey keys = keys ++ (given.filter (· ∉ keys)).eraseDups := by
  induction given generalizing keys with
  | nil => simp
  | cons key given ih =>
    rw [List.foldl_cons, ih]
    by_cases known : key ∈ keys
    · simp [addKey, known]
    · rw [addKey, if_neg known, List.filter_cons_of_pos (by simpa using known), List.eraseDups_cons,
        List.append_assoc, List.singleton_append, List.filter_filter]
      congr 4
      funext other
      by_cases same : other = key
      · simp [same]
      · simp [same]

theorem nodup_addKey {keys : List Text} (nodup : keys.Nodup) (key : Text) : (addKey keys key).Nodup := by
  rw [addKey]
  split
  case isTrue => exact nodup
  case isFalse new => exact nodup.append (List.nodup_singleton key) (by simpa using new)

theorem nodup_foldl_addKey {keys : List Text} (nodup : keys.Nodup) (given : List Text) :
    (given.foldl addKey keys).Nodup := by
  induction given generalizing keys with
  | nil => exact nodup
  | cons key given ih => exact ih (nodup_addKey nodup key)

theorem nodup_eraseDups (keys : List Text) : keys.eraseDups.Nodup := by
  have added := foldl_addKey [] keys
  simp only [List.not_mem_nil, not_false_eq_true, decide_true, List.filter_true, List.nil_append] at added
  rw [← added]
  exact nodup_foldl_addKey List.nodup_nil keys

/-- Keys without repetitions are added as they are. -/
theorem eraseDups_eq_self {keys : List Text} (nodup : keys.Nodup) : keys.eraseDups = keys := by
  induction keys with
  | nil => rfl
  | cons key keys ih =>
    obtain ⟨notMem, nodup⟩ := List.nodup_cons.mp nodup
    have others : keys.filter (fun other => !other == key) = keys := by
      apply List.filter_eq_self.mpr
      intro other mem
      have ne : other ≠ key := fun same => notMem (same ▸ mem)
      simp [ne]
    rw [List.eraseDups_cons, others, ih nodup]

/-! ## §2 Steps of the machine -/

namespace Reader

/-- Whether a value may come next. -/
def TakesValue (expected : Expected) : Prop := expected = .value ∨ expected = .firstItem

/-- What one more token does to a stack. -/
inductive Step : Expected → Token → List Frame → Reader → Prop where
  | openArray {expected : Expected} {frames : List Frame} (takes : TakesValue expected)
      (fits : frames.length < maxDepth) : Step expected .openArray frames ⟨.array [] :: frames, .firstItem⟩
  | openObject {expected : Expected} {frames : List Frame} (takes : TakesValue expected)
      (fits : frames.length < maxDepth) : Step expected .openObject frames ⟨.object [] [] :: frames, .firstKey⟩
  | literal {expected : Expected} {frames : List Frame} (takes : TakesValue expected) (value : Json) :
      Step expected (.literal value) frames (put frames value)
  | string {expected : Expected} {frames : List Frame} (takes : TakesValue expected) (text : Text) :
      Step expected (.string text) frames (put frames (.string text))
  | emptyArray {items : List Json} {frames : List Frame} :
      Step .firstItem .closeArray (.array items :: frames) (put frames (.array []))
  | emptyObject {fields : List (Text × Json)} {old : Text} {frames : List Frame} :
      Step .firstKey .closeObject (.object fields old :: frames) (put frames (.object []))
  | key {expected : Expected} {fields : List (Text × Json)} {old : Text} {frames : List Frame}
      (takes : expected = .firstKey ∨ expected = .key) (key : Text) :
      Step expected (.string key) (.object fields old :: frames) ⟨.object fields key :: frames, .colon⟩
  | colon {frames : List Frame} : Step .colon .colon frames ⟨frames, .value⟩
  | nextItem {items : List Json} {frames : List Frame} :
      Step .separator .comma (.array items :: frames) ⟨.array items :: frames, .value⟩
  | nextKey {fields : List (Text × Json)} {old : Text} {frames : List Frame} :
      Step .separator .comma (.object fields old :: frames) ⟨.object fields old :: frames, .key⟩
  | closeArray {items : List Json} {frames : List Frame} :
      Step .separator .closeArray (.array items :: frames) (put frames (.array items.reverse))
  | closeObject {fields : List (Text × Json)} {old : Text} {frames : List Frame} :
      Step .separator .closeObject (.object fields old :: frames) (put frames (.object fields))

variable {frames : List Frame} {expected : Expected} {token : Token} {next : Reader}

theorem openFrame?_eq_some {added : Frame} (h : openFrame? frames added expected = some next) :
    frames.length < maxDepth ∧ next = ⟨added :: frames, expected⟩ := by
  rw [openFrame?] at h
  split at h
  case isTrue fits => exact ⟨fits, (Option.some.inj h).symm⟩
  case isFalse => cases h

theorem step_of_step? (h : step? ⟨frames, expected⟩ token = some next) :
    Step expected token frames next := by
  unfold step? at h
  dsimp only at h
  split at h
  case h_1 =>
    obtain ⟨fits, rfl⟩ := openFrame?_eq_some h
    exact .openArray (.inl rfl) fits
  case h_2 =>
    obtain ⟨fits, rfl⟩ := openFrame?_eq_some h
    exact .openArray (.inr rfl) fits
  case h_3 =>
    obtain ⟨fits, rfl⟩ := openFrame?_eq_some h
    exact .openObject (.inl rfl) fits
  case h_4 =>
    obtain ⟨fits, rfl⟩ := openFrame?_eq_some h
    exact .openObject (.inr rfl) fits
  case h_18 => cases h
  all_goals obtain rfl := Option.some.inj h
  case h_5 value => exact .literal (.inl rfl) value
  case h_6 value => exact .literal (.inr rfl) value
  case h_7 text => exact .string (.inl rfl) text
  case h_8 text => exact .string (.inr rfl) text
  case h_9 => exact .emptyArray
  case h_10 => exact .emptyObject
  case h_11 key => exact .key (.inl rfl) _
  case h_12 key => exact .key (.inr rfl) _
  case h_13 => exact .colon
  case h_14 => exact .nextItem
  case h_15 => exact .nextKey
  case h_16 => exact .closeArray
  case h_17 => exact .closeObject

end Reader

/-! ## §3 Tokens -/

/-- A token is no array or object that is complete at once. -/
def Token.IsSimple (token : Token) : Prop := ∀ fields, token ≠ .literal (.object fields)

theorem Token.isSimple_of_scan? {text rest : Text} {token : Token}
    (h : Token.scan? text = some (token, rest)) : token.IsSimple := by
  intro fields same
  subst same
  unfold Token.scan? at h
  split at h
  case h_11 =>
    obtain ⟨⟨numeral, behind⟩, -, h⟩ := Option.bind_eq_some_iff.mp h
    obtain ⟨number, -, h⟩ := Option.bind_eq_some_iff.mp h
    cases h
  all_goals simp at h

theorem Token.isSimple_of_scanAll? {fuel : Nat} {text : Text} {tokens : List Token}
    (h : Token.scanAll? fuel text = some tokens) : ∀ token ∈ tokens, token.IsSimple := by
  fun_induction Token.scanAll? fuel text generalizing tokens with
  | case1 => simp_all
  | case2 => cases h
  | case3 fuel c text space ih => exact ih h
  | case4 fuel c text space ih =>
    obtain ⟨⟨first, rest⟩, scanned, h⟩ := Option.bind_eq_some_iff.mp h
    obtain ⟨others, scannedAll, h⟩ := Option.bind_eq_some_iff.mp h
    cases h
    exact List.forall_mem_cons.mpr ⟨isSimple_of_scan? scanned, ih rest scannedAll⟩

end DocSite.Json
