import DocSite.Proofs.Json.Reader

/-!
# Spellings of JSON values

How a value is spelled by tokens, said without the machine that reads them: an array or an object is spelled by its
items or members with a comma between neighbours, inside of its brackets, and so on for what is in it.

The machine reads what is spelled (`Reader.read_of_spells`), and it reads nothing else: the tokens that bring it from
some state to the end finish what has been begun there (`Reader.Finishes`), which is shown one token after the other
from the last one on (`Reader.Finishes.of_step`). Together these say what a text has to be to have a value
(`parse?_eq_some_iff`), and for an object, that its fields are its members, set one after the other
(`parse?_eq_object_iff`).
-/

namespace DocSite.Json

/-! ## §1 Spellings -/

/-- Pieces with a comma between neighbours. -/
def commas : List (List Token) → List Token
  | [] => []
  | first :: rest => first ++ rest.flatMap (.comma :: ·)

/-- A member of an object as it is given: a key and a value, which some tokens spell. -/
structure Member where
  key : Text
  tokens : List Token
  value : Json

/-- The tokens of a member. -/
def Member.spelled (member : Member) : List Token := .string member.key :: .colon :: member.tokens

/-- The fields with those of members set one after the other: a key that is there already keeps its place and takes
the new value. -/
def setMembers (fields : List (Text × Json)) (members : List Member) : List (Text × Json) :=
  members.foldl (fun fields member => setField member.key member.value fields) fields

/-- The tokens of an array whose items are spelled by these. -/
def arrayTokens (items : List (List Token)) : List Token := .openArray :: commas items ++ [.closeArray]

/-- The tokens of an object with these members. -/
def objectTokens (members : List Member) : List Token :=
  .openObject :: commas (members.map Member.spelled) ++ [.closeObject]

/-- The tokens spell the value, and no more than `room` arrays and objects are open at a time. -/
inductive Spells : Nat → List Token → Json → Prop where
  | literal {room : Nat} (value : Json) : Spells room [.literal value] value
  | string {room : Nat} (text : Text) : Spells room [.string text] (.string text)
  | array {room : Nat} (items : List (List Token × Json)) (each : ∀ item ∈ items, Spells room item.1 item.2) :
      Spells (room + 1) (arrayTokens (items.map (·.1))) (.array (items.map (·.2)))
  | object {room : Nat} (members : List Member)
      (each : ∀ member ∈ members, Spells room member.tokens member.value) :
      Spells (room + 1) (objectTokens members) (.object (setMembers [] members))

/-- Commas between pieces, the first one taken out. -/
theorem commas_cons_map {α : Type} (spelled : α → List Token) (first : α) (rest : List α) :
    commas ((first :: rest).map spelled) = spelled first ++ rest.flatMap fun piece => .comma :: spelled piece := by
  rw [List.map_cons, commas, List.flatMap_map]

namespace Reader

variable {frames : List Frame} {expected : Expected} {token : Token} {tokens : List Token} {room : Nat}

/-! ## §2 What is spelled is read -/

/-- Where a value may come, an array or object may be opened, unless too many are open already. -/
theorem step?_open (takes : TakesValue expected) (fits : frames.length < maxDepth) :
    step? ⟨frames, expected⟩ .openArray = some ⟨.array [] :: frames, .firstItem⟩ ∧
      step? ⟨frames, expected⟩ .openObject = some ⟨.object [] [] :: frames, .firstKey⟩ := by
  rcases takes with rfl | rfl
  all_goals exact ⟨if_pos fits, if_pos fits⟩

/-- Items behind the first one are read one after the other. -/
theorem read_items {items : List (List Token × Json)} (done : List Json)
    (each : ∀ item ∈ items, ∀ done : List Json,
      item.1.foldlM step? ⟨.array done :: frames, .value⟩ = some ⟨.array (item.2 :: done) :: frames, .separator⟩) :
    (items.flatMap fun item => Token.comma :: item.1).foldlM step? ⟨.array done :: frames, .separator⟩ =
      some ⟨.array ((items.map (·.2)).reverse ++ done) :: frames, .separator⟩ := by
  induction items generalizing done with
  | nil => rfl
  | cons item items ih =>
    have first := each item (List.mem_cons_self ..) done
    have rest := ih (item.2 :: done) fun other mem => each other (List.mem_cons_of_mem item mem)
    rw [List.flatMap_cons, List.cons_append, List.foldlM_cons]
    show ((item.1 ++ _).foldlM step? ⟨.array done :: frames, .value⟩) = _
    rw [List.foldlM_append, first]
    show ((items.flatMap _).foldlM step? ⟨.array (item.2 :: done) :: frames, .separator⟩) = _
    rw [rest, List.map_cons, List.reverse_cons, List.append_assoc]
    rfl

/-- Members behind the first one are read one after the other. -/
theorem read_members {members : List Member} (fields : List (Text × Json)) (old : Text)
    (each : ∀ member ∈ members, ∀ fields : List (Text × Json),
      member.tokens.foldlM step? ⟨.object fields member.key :: frames, .value⟩ =
        some ⟨.object (setField member.key member.value fields) member.key :: frames, .separator⟩) :
    ∃ last, (members.flatMap fun member => Token.comma :: member.spelled).foldlM step?
        ⟨.object fields old :: frames, .separator⟩ =
      some ⟨.object (setMembers fields members) last :: frames, .separator⟩ := by
  induction members generalizing fields old with
  | nil => exact ⟨old, rfl⟩
  | cons member members ih =>
    have first := each member (List.mem_cons_self ..) fields
    obtain ⟨last, rest⟩ := ih (setField member.key member.value fields) member.key fun other mem =>
      each other (List.mem_cons_of_mem member mem)
    refine ⟨last, ?_⟩
    rw [List.flatMap_cons, List.cons_append, List.foldlM_cons]
    show ((member.tokens ++ _).foldlM step? ⟨.object fields member.key :: frames, .value⟩) = _
    rw [List.foldlM_append, first]
    exact rest

/-- **What is spelled is read** as one value, whatever is open around it. -/
theorem read_of_spells {value : Json} (h : Spells room tokens value) (fits : frames.length + room ≤ maxDepth)
    (takes : TakesValue expected) : tokens.foldlM step? ⟨frames, expected⟩ = some (put frames value) := by
  induction h generalizing frames expected with
  | literal value =>
    rcases takes with rfl | rfl
    · rfl
    · rfl
  | string text =>
    rcases takes with rfl | rfl
    · rfl
    · rfl
  | @array room items each ih =>
    have opened := (step?_open takes (by omega : frames.length < maxDepth)).1
    rw [arrayTokens, List.cons_append, List.foldlM_cons, opened]
    cases items with
    | nil => rfl
    | cons first items =>
      have inside (done : List Json) : (Frame.array done :: frames).length + room ≤ maxDepth := by
        rw [List.length_cons]
        omega
      have begins := ih first (List.mem_cons_self ..) (inside []) (.inr rfl)
      have goesOn := read_items [first.2] fun item mem done =>
        ih item (List.mem_cons_of_mem first mem) (inside done) (.inl rfl)
      -- Behind the bracket comes the first item, then the others, and at last the other bracket.
      show (commas _ ++ [Token.closeArray]).foldlM step? _ = _
      rw [commas_cons_map, List.append_assoc, List.foldlM_append, begins]
      show (_ ++ [Token.closeArray]).foldlM step? ⟨.array [first.2] :: frames, .separator⟩ = _
      rw [List.foldlM_append, goesOn]
      show some (put frames (.array _)) = _
      rw [List.reverse_append, List.reverse_reverse, List.map_cons]
      rfl
  | @object room members each ih =>
    have opened := (step?_open takes (by omega : frames.length < maxDepth)).2
    rw [objectTokens, List.cons_append, List.foldlM_cons, opened]
    cases members with
    | nil => rfl
    | cons first members =>
      have inside (fields : List (Text × Json)) (key : Text) :
          (Frame.object fields key :: frames).length + room ≤ maxDepth := by
        rw [List.length_cons]
        omega
      have begins := ih first (List.mem_cons_self ..) (inside [] first.key) (.inl rfl)
      obtain ⟨last, goesOn⟩ := read_members [(first.key, first.value)] first.key fun member mem fields =>
        ih member (List.mem_cons_of_mem first mem) (inside fields member.key) (.inl rfl)
      show (commas _ ++ [Token.closeObject]).foldlM step? _ = _
      rw [commas_cons_map, List.append_assoc]
      show (first.tokens ++ _).foldlM step? ⟨.object [] first.key :: frames, .value⟩ = _
      rw [List.foldlM_append, begins]
      show (_ ++ [Token.closeObject]).foldlM step?
        ⟨.object [(first.key, first.value)] first.key :: frames, .separator⟩ = _
      rw [List.foldlM_append, goesOn]
      rfl

/-! ## §3 Nothing else is read -/

/-- The tokens finish what has been begun in a state of the machine, with a result. -/
inductive Finishes (result : Json) : Reader → List Token → Prop where
  | nothing {frames : List Frame} : Finishes result ⟨frames, .nothing result⟩ []
  | value {frames : List Frame} {expected : Expected} {before after : List Token} {value : Json}
      (takes : TakesValue expected) (spelled : Spells (maxDepth - frames.length) before value)
      (behind : Finishes result (put frames value) after) : Finishes result ⟨frames, expected⟩ (before ++ after)
  | noItems {frames : List Frame} {done : List Json} {after : List Token}
      (behind : Finishes result (put frames (.array [])) after) :
      Finishes result ⟨.array done :: frames, .firstItem⟩ (.closeArray :: after)
  | items {frames : List Frame} {done : List Json} {after : List Token} (items : List (List Token × Json))
      (each : ∀ item ∈ items, Spells (maxDepth - (frames.length + 1)) item.1 item.2)
      (behind : Finishes result (put frames (.array (done.reverse ++ items.map (·.2)))) after) :
      Finishes result ⟨.array done :: frames, .separator⟩
        ((items.flatMap fun item => .comma :: item.1) ++ .closeArray :: after)
  | noMembers {frames : List Frame} {fields : List (Text × Json)} {old : Text} {after : List Token}
      (behind : Finishes result (put frames (.object [])) after) :
      Finishes result ⟨.object fields old :: frames, .firstKey⟩ (.closeObject :: after)
  | key {frames : List Frame} {expected : Expected} {fields : List (Text × Json)} {old key : Text}
      {after : List Token} (takes : expected = .firstKey ∨ expected = .key)
      (behind : Finishes result ⟨.object fields key :: frames, .colon⟩ after) :
      Finishes result ⟨.object fields old :: frames, expected⟩ (.string key :: after)
  | colon {frames : List Frame} {after : List Token} (behind : Finishes result ⟨frames, .value⟩ after) :
      Finishes result ⟨frames, .colon⟩ (.colon :: after)
  | members {frames : List Frame} {fields : List (Text × Json)} {old : Text} {after : List Token}
      (members : List Member)
      (each : ∀ member ∈ members, Spells (maxDepth - (frames.length + 1)) member.tokens member.value)
      (behind : Finishes result (put frames (.object (setMembers fields members))) after) :
      Finishes result ⟨.object fields old :: frames, .separator⟩
        ((members.flatMap fun member => .comma :: member.spelled) ++ .closeObject :: after)

section Finishes

variable {result : Json} {next : Reader}

/-- Where an item of an array may come, the array is empty, or the item comes and more items behind it. -/
theorem Finishes.array_cases {done : List Json} (takes : TakesValue expected)
    (h : Finishes result ⟨.array done :: frames, expected⟩ tokens) :
    (∃ after, tokens = .closeArray :: after ∧ expected = .firstItem ∧
      Finishes result (put frames (.array [])) after) ∨
    ∃ (first : List Token × Json) (items : List (List Token × Json)) (after : List Token),
      tokens = first.1 ++ ((items.flatMap fun item => .comma :: item.1) ++ .closeArray :: after) ∧
      (∀ item ∈ first :: items, Spells (maxDepth - (frames.length + 1)) item.1 item.2) ∧
      Finishes result (put frames (.array (done.reverse ++ (first :: items).map (·.2)))) after := by
  cases h with
  | noItems behind => exact .inl ⟨_, rfl, rfl, behind⟩
  | nothing => simp [TakesValue] at takes
  | colon => simp [TakesValue] at takes
  | items => simp [TakesValue] at takes
  | @value _ _ before _ value _ spelled behind =>
    cases behind with
    | value takes => simp [TakesValue] at takes
    | @items _ _ after items each behind =>
      refine .inr ⟨(before, value), items, after, rfl, List.forall_mem_cons.mpr ⟨spelled, each⟩, ?_⟩
      simpa using behind

/-- Where a key of an object may come, the object is empty, or a member comes and more members behind it. -/
theorem Finishes.object_cases {fields : List (Text × Json)} {old : Text}
    (takes : expected = .firstKey ∨ expected = .key)
    (h : Finishes result ⟨.object fields old :: frames, expected⟩ tokens) :
    (∃ after, tokens = .closeObject :: after ∧ expected = .firstKey ∧
      Finishes result (put frames (.object [])) after) ∨
    ∃ (first : Member) (members : List Member) (after : List Token),
      tokens = first.spelled ++ ((members.flatMap fun member => .comma :: member.spelled) ++ .closeObject :: after) ∧
      (∀ member ∈ first :: members, Spells (maxDepth - (frames.length + 1)) member.tokens member.value) ∧
      Finishes result (put frames (.object (setMembers fields (first :: members)))) after := by
  cases h with
  | noMembers behind => exact .inl ⟨_, rfl, rfl, behind⟩
  | value takesValue => rcases takes with rfl | rfl <;> simp [TakesValue] at takesValue
  | nothing => simp at takes
  | colon => simp at takes
  | members => simp at takes
  | @key _ _ _ _ key _ _ behind =>
    cases behind with
    | value takes => simp [TakesValue] at takes
    | key takes => simp at takes
    | colon behind =>
      cases behind with
      | key takes => simp at takes
      | @value _ _ before _ value _ spelled behind =>
        cases behind with
        | value takes => simp [TakesValue] at takes
        | key takes => simp at takes
        | @members _ _ _ after members each behind =>
          refine .inr ⟨⟨key, before, value⟩, members, after, rfl, ?_, behind⟩
          exact List.forall_mem_cons.mpr ⟨spelled, each⟩

/-- **What is finished behind a step is finished before it**, with the token of the step. -/
theorem Finishes.of_step (step : Step expected token frames next) (h : Finishes result next tokens) :
    Finishes result ⟨frames, expected⟩ (token :: tokens) := by
  cases step with
  | literal takes value => exact .value takes (.literal value) h
  | string takes text => exact .value takes (.string text) h
  | emptyArray => exact .noItems h
  | emptyObject => exact .noMembers h
  | key takes key => exact .key takes h
  | colon => exact .colon h
  | closeArray => exact .items [] nofun (by simpa using h)
  | closeObject => exact .members [] nofun h
  | openArray takes fits =>
    -- The new array ends somewhere, and up to there the tokens spell it.
    have room : maxDepth - frames.length = maxDepth - (frames.length + 1) + 1 := by omega
    rcases h.array_cases (.inr rfl) with ⟨after, rfl, -, behind⟩ | ⟨first, items, after, rfl, each, behind⟩
    · have spelled := @Spells.array (maxDepth - (frames.length + 1)) [] nofun
      exact .value takes (room ▸ spelled) behind
    · have spelled := Spells.array (first :: items) each
      rw [← room, arrayTokens, commas_cons_map] at spelled
      simpa using Finishes.value takes spelled behind
  | openObject takes fits =>
    -- And so does the new object.
    have room : maxDepth - frames.length = maxDepth - (frames.length + 1) + 1 := by omega
    rcases h.object_cases (.inl rfl) with ⟨after, rfl, -, behind⟩ | ⟨first, members, after, rfl, each, behind⟩
    · have spelled := @Spells.object (maxDepth - (frames.length + 1)) [] nofun
      exact .value takes (room ▸ spelled) behind
    · have spelled := Spells.object (first :: members) each
      rw [← room, objectTokens, commas_cons_map] at spelled
      simpa using Finishes.value takes spelled behind
  | nextItem =>
    rcases h.array_cases (.inl rfl) with ⟨_, _, impossible, _⟩ | ⟨first, items, after, rfl, each, behind⟩
    · cases impossible
    · simpa using Finishes.items (first :: items) each behind
  | nextKey =>
    rcases h.object_cases (.inr rfl) with ⟨_, _, impossible, _⟩ | ⟨first, members, after, rfl, each, behind⟩
    · cases impossible
    · simpa using Finishes.members (first :: members) each behind

/-- The tokens that bring the machine to its end finish what has been begun. -/
theorem finishes_of_run (reader : Reader) {final : Reader} (run : tokens.foldlM step? reader = some final)
    (complete : final.result? = some result) : Finishes result reader tokens := by
  -- The induction is on the tokens; a step carries what is finished behind it to the front of it.
  induction tokens generalizing reader with
  | nil =>
    obtain rfl := Option.some.inj run
    rw [result?] at complete
    split at complete
    case h_1 value same =>
      obtain rfl := Option.some.inj complete
      obtain ⟨frames, expected⟩ := reader
      obtain rfl : expected = .nothing value := same
      exact .nothing
    case h_2 => cases complete
  | cons token tokens ih =>
    rw [List.foldlM_cons] at run
    obtain ⟨next, first, rest⟩ := Option.bind_eq_some_iff.mp run
    exact (ih next rest).of_step (step_of_step? first)

/-- What finishes a reading that has not begun is one value. -/
theorem Finishes.spells (h : Finishes result start tokens) : Spells maxDepth tokens result := by
  cases h with
  | @value _ _ before after value takes spelled behind =>
    cases behind with
    | nothing => simpa using spelled
    | value takes => simp [TakesValue] at takes

/-- **The machine reads a value from the tokens that spell it**, and from no others. -/
theorem reads_iff_spells :
    (∃ final, tokens.foldlM step? start = some final ∧ final.result? = some result) ↔
      Spells maxDepth tokens result := by
  constructor
  · rintro ⟨final, run, complete⟩
    exact (finishes_of_run start run complete).spells
  · intro spelled
    exact ⟨_, read_of_spells spelled (Nat.le_of_eq (Nat.zero_add _)) (.inl rfl), rfl⟩

end Finishes

end Reader

/-! ## §4 Texts -/

/-- **A text has the value that its tokens spell.** -/
theorem parse?_eq_some_iff {text : Text} {value : Json} :
    parse? text = some value ↔
      ∃ tokens, Token.scanAll? text.length text = some tokens ∧ Spells maxDepth tokens value := by
  refine Option.bind_eq_some_iff.trans ?_
  apply exists_congr
  intro tokens
  apply and_congr_right
  intro scanned
  rw [← Reader.reads_iff_spells]
  exact Option.bind_eq_some_iff

/-- The text is an object with these members, spelled as they are given. -/
structure IsObject (text : Text) (members : List Member) : Prop where
  tokens : Token.scanAll? text.length text = some (objectTokens members)
  each : ∀ member ∈ members, Spells (maxDepth - 1) member.tokens member.value

/-- **The fields of an object that is read are its members**, set one after the other. -/
theorem parse?_eq_object_iff {text : Text} {fields : List (Text × Json)} :
    parse? text = some (.object fields) ↔ ∃ members, IsObject text members ∧ fields = setMembers [] members := by
  rw [parse?_eq_some_iff]
  constructor
  · rintro ⟨tokens, scanned, spelled⟩
    cases spelled with
    | literal => exact absurd rfl (Token.isSimple_of_scanAll? scanned _ (List.mem_singleton_self _) fields)
    | object members each => exact ⟨members, ⟨scanned, each⟩, rfl⟩
  · rintro ⟨members, ⟨scanned, each⟩, rfl⟩
    exact ⟨objectTokens members, scanned, .object members each⟩

/-! ## §5 Keys and values -/

/-- Only what is followed by a colon is a key. -/
theorem outerKeys_string (depth : Nat) (text : Text) {tokens : List Token}
    (h : ∀ rest, tokens ≠ .colon :: rest) :
    outerKeys depth (.string text :: tokens) = outerKeys depth tokens := by
  match tokens with
  | [] => rfl
  | .colon :: rest => exact absurd rfl (h rest)
  | .openArray :: _ | .closeArray :: _ | .openObject :: _ | .closeObject :: _ | .comma :: _
  | .literal _ :: _ | .string _ :: _ => rfl

/-- No key of the outermost object is given inside of something in it. -/
theorem outerKeys_string_of_ne {depth : Nat} (inside : depth ≠ 1) (text : Text) (tokens : List Token) :
    outerKeys depth (.string text :: tokens) = outerKeys depth tokens := by
  by_cases colon : ∃ rest, tokens = .colon :: rest
  · obtain ⟨rest, rfl⟩ := colon
    rw [outerKeys, if_neg inside]
    rfl
  · exact outerKeys_string depth text fun rest same => colon ⟨rest, same⟩

/-- Pieces that give no keys give none with commas between them. -/
theorem outerKeys_commas {depth : Nat} {pieces : List (List Token)}
    (each : ∀ piece ∈ pieces, ∀ rest, outerKeys depth (piece ++ rest) = outerKeys depth rest) (rest : List Token) :
    outerKeys depth (commas pieces ++ rest) = outerKeys depth rest := by
  have behind (others : List (List Token)) (mem : ∀ piece ∈ others, piece ∈ pieces) :
      outerKeys depth (others.flatMap (.comma :: ·) ++ rest) = outerKeys depth rest := by
    induction others with
    | nil => rfl
    | cons piece others ih =>
      rw [List.flatMap_cons, List.cons_append, List.cons_append, List.append_assoc]
      show outerKeys depth (piece ++ _) = _
      rw [each piece (mem piece (List.mem_cons_self ..))]
      exact ih fun other there => mem other (List.mem_cons_of_mem piece there)
  cases pieces with
  | nil => rfl
  | cons first others =>
    rw [commas, List.append_assoc, each first (List.mem_cons_self ..)]
    exact behind others fun piece there => List.mem_cons_of_mem first there

/-- A value inside of the outermost array or object gives it no keys. -/
theorem outerKeys_of_spells {room depth : Nat} {tokens rest : List Token} {value : Json}
    (h : Spells room tokens value) (inside : 0 < depth) (behind : depth = 1 → ∀ others, rest ≠ .colon :: others) :
    outerKeys depth (tokens ++ rest) = outerKeys depth rest := by
  -- What is inside of the value is deeper, and there it does not matter what comes behind.
  induction h generalizing depth rest with
  | literal => rfl
  | string text =>
    by_cases top : depth = 1
    · exact outerKeys_string depth text (behind top)
    · exact outerKeys_string_of_ne top text rest
  | array items each ih =>
    have deeper : depth + 1 ≠ 1 := by omega
    rw [arrayTokens, List.cons_append, List.cons_append, List.append_assoc]
    show outerKeys (depth + 1) (commas _ ++ _) = _
    rw [outerKeys_commas]
    · rfl
    · intro piece mem rest
      obtain ⟨item, there, rfl⟩ := List.mem_map.mp mem
      exact ih item there (Nat.succ_pos depth) (absurd · deeper)
  | object members each ih =>
    have deeper : depth + 1 ≠ 1 := by omega
    rw [objectTokens, List.cons_append, List.cons_append, List.append_assoc]
    show outerKeys (depth + 1) (commas _ ++ _) = _
    rw [outerKeys_commas]
    · rfl
    · intro piece mem rest
      obtain ⟨member, there, rfl⟩ := List.mem_map.mp mem
      -- The key of a member is none of the outermost object.
      rw [Member.spelled, List.cons_append, outerKeys_string_of_ne deeper]
      exact ih member there (Nat.succ_pos depth) (absurd · deeper)

theorem outerKeys_member {room : Nat} {member : Member} (h : Spells room member.tokens member.value)
    {rest : List Token} (behind : ∀ others, rest ≠ .colon :: others) :
    outerKeys 1 (member.spelled ++ rest) = member.key :: outerKeys 1 rest := by
  rw [Member.spelled, List.cons_append, List.cons_append, outerKeys, if_pos rfl]
  rw [outerKeys_of_spells h Nat.one_pos fun _ => behind]

/-- **The keys among the tokens of an object are those of its members.** -/
theorem outerKeys_objectTokens {room : Nat} {members : List Member}
    (each : ∀ member ∈ members, Spells room member.tokens member.value) :
    outerKeys 0 (objectTokens members) = members.map (·.key) := by
  have tail (others : List Member) (mem : ∀ member ∈ others, member ∈ members) :
      (∀ rest, (others.flatMap fun member => .comma :: member.spelled) ++ [.closeObject] ≠ .colon :: rest) ∧
      outerKeys 1 ((others.flatMap fun member => .comma :: member.spelled) ++ [.closeObject]) =
        others.map (·.key) := by
    induction others with
    | nil => exact ⟨nofun, rfl⟩
    | cons member others ih =>
      obtain ⟨noColon, keys⟩ := ih fun other there => mem other (List.mem_cons_of_mem member there)
      refine ⟨nofun, ?_⟩
      rw [List.flatMap_cons, List.cons_append, List.cons_append, List.append_assoc]
      show outerKeys 1 (member.spelled ++ _) = _
      rw [outerKeys_member (each member (mem member (List.mem_cons_self ..))) noColon, keys, List.map_cons]
  show outerKeys 1 (commas _ ++ [.closeObject]) = _
  cases members with
  | nil => rfl
  | cons first others =>
    obtain ⟨noColon, keys⟩ := tail others fun member there => List.mem_cons_of_mem first there
    rw [commas_cons_map, List.append_assoc, outerKeys_member (each first (List.mem_cons_self ..)) noColon, keys,
      List.map_cons]

/-- The keys of an object are those of its members. -/
theorem IsObject.keysOf {text : Text} {members : List Member} (h : IsObject text members) :
    keysOf text = members.map (·.key) := by
  rw [Json.keysOf, h.tokens]
  exact outerKeys_objectTokens h.each

theorem map_fst_setMembers (fields : List (Text × Json)) (members : List Member) :
    (setMembers fields members).map (·.1) = (members.map (·.key)).foldl addKey (fields.map (·.1)) := by
  induction members generalizing fields with
  | nil => rfl
  | cons member members ih =>
    rw [List.map_cons, List.foldl_cons, ← map_fst_setField member.key member.value fields]
    exact ih (setField member.key member.value fields)

/-- The fields that members make have their keys, each of them once. -/
theorem map_fst_setMembers_nil (members : List Member) :
    (setMembers [] members).map (·.1) = (members.map (·.key)).eraseDups := by
  rw [map_fst_setMembers]
  simp [foldl_addKey]

/-- **The keys of an object are those that are given in its text**, each of them once. -/
theorem keys_of_parse? {text : Text} {fields : List (Text × Json)} (h : parse? text = some (.object fields)) :
    fields.map (·.1) = (keysOf text).eraseDups := by
  obtain ⟨members, object, rfl⟩ := parse?_eq_object_iff.mp h
  rw [map_fst_setMembers_nil, object.keysOf]

/-- The first one that counts is the last one only if no other follows. -/
theorem getLast?_filter_cons {α : Type} (p : α → Bool) (first : α) (rest : List α) :
    ((first :: rest).filter p).getLast? = (rest.filter p).getLast?.or (if p first then some first else none) := by
  by_cases counts : p first
  · rw [List.filter_cons_of_pos counts, if_pos counts, List.getLast?_cons]
    cases (rest.filter p).getLast? with
    | none => rfl
    | some last => rfl
  · rw [List.filter_cons_of_neg counts, if_neg counts, Option.or_none]

/-- The value that a key is given last. -/
def lastValue? (members : List Member) (key : Text) : Option Json :=
  (members.filter (·.key = key)).getLast?.map (·.value)

theorem lastValue?_cons (member : Member) (members : List Member) (key : Text) :
    lastValue? (member :: members) key =
      (lastValue? members key).or (if member.key = key then some member.value else none) := by
  rw [lastValue?, getLast?_filter_cons, Option.map_or, lastValue?]
  by_cases same : member.key = key
  · simp [same]
  · simp [same]

theorem field?_setField {α : Type} (key : Text) (value : α) (fields : List (Text × α)) (other : Text) :
    field? other (setField key value fields) = if key = other then some value else field? other fields := by
  induction fields with
  | nil =>
    by_cases same : key = other
    · simp [setField, field?, same]
    · simp [setField, field?, same]
  | cons field fields ih =>
    by_cases here : field.1 = key
    · by_cases same : key = other
      · simp [setField, field?, here, same]
      · simp [setField, field?, here, same]
    · by_cases same : field.1 = other
      · have ne : key ≠ other := fun again => here (same.trans again.symm)
        rw [setField, if_neg here]
        simp [field?, same, ne]
      · rw [setField, if_neg here, field?, List.find?_cons_of_neg (by simpa using same)]
        refine ih.trans ?_
        simp [field?, same]

/-- **The field with a key has the value that the key is given last.** -/
theorem field?_setMembers (fields : List (Text × Json)) (members : List Member) (key : Text) :
    field? key (setMembers fields members) = (lastValue? members key).or (field? key fields) := by
  induction members generalizing fields with
  | nil => rfl
  | cons member members ih =>
    have behind : field? key (setMembers fields (member :: members)) =
        (lastValue? members key).or (field? key (setField member.key member.value fields)) := ih _
    rw [behind, field?_setField, lastValue?_cons, Option.or_assoc]
    by_cases same : member.key = key
    · rw [if_pos same, if_pos same, Option.some_or]
    · rw [if_neg same, if_neg same, Option.none_or]

theorem field?_setMembers_nil (members : List Member) (key : Text) :
    field? key (setMembers [] members) = lastValue? members key := by
  have none : field? key ([] : List (Text × Json)) = none := rfl
  rw [field?_setMembers, none, Option.or_none]

end DocSite.Json
