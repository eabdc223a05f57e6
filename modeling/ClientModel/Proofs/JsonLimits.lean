/-
This file says which JSON texts are beyond what can be read: those with an integer of too many
digits, and those that nest lists and maps too deep. Only what comes where a value may come counts,
and only up to the first mistake in the text. The main statement is that reading a text stops at one
of these limits exactly where the text is beyond it; any other text has a value or is no JSON.
-/

import ClientModel.Proofs.Outcome
import ClientModel.Proofs.WrittenValues

namespace ClientModel.Json

/-! ### Brackets -/

/-- Whether a token opens a list or a map. -/
def Token.isOpening : Token → Bool
  | .openList | .openMap => true
  | _ => false

/-- Whether a token closes a list or a map. -/
def Token.isClosing : Token → Bool
  | .closeList | .closeMap => true
  | _ => false

/-- How many lists and maps are open behind some tokens. -/
def openBehind (found : List (Token × Nat)) : Nat :=
  found.countP (·.1.isOpening) - found.countP (·.1.isClosing)

/-- How many lists and maps are open in a state. One that was just opened, or whose key is being
read, is not on the stack yet. -/
def Reading.depth (reading : Reading) : Nat :=
  match reading.expected with
  | .value | .following _ => reading.stack.length
  | .itemOrEnd | .key _ | .keyOrEnd | .colon _ _ => reading.stack.length + 1

/-! ### Steps -/

/-- What a token does: it is read as a value where one may come, it is read as something else, or it
is a mistake. -/
theorem step_cases (reading : Reading) (token : Token × Nat) :
    (∃ stack, reading.AwaitsValue stack ∧ stack.length = reading.depth ∧
      step reading token = stepValue stack token.2 token.1) ∨
    (∃ next, step reading token = .ok next ∧ token.1.isOpening = false ∧
      next.depth + token.1.isClosing.toNat = reading.depth) ∨
    ∃ complaint position, step reading token = .error (.malformed complaint position) := by
  obtain ⟨expected, stack⟩ := reading
  obtain ⟨token, position⟩ := token
  have key (done : Entries) :
      (∃ next, stepKey done stack position token = .ok next ∧ token.isOpening = false ∧
        next.depth + token.isClosing.toNat = stack.length + 1) ∨
      ∃ complaint place,
        stepKey done stack position token = .error (.malformed complaint place) := by
    cases token with
    | text name => exact Or.inl ⟨⟨.colon done name, stack⟩, rfl, rfl, rfl⟩
    | _ => exact Or.inr ⟨_, _, rfl⟩
  cases expected with
  | value => exact Or.inl ⟨stack, awaitsValue_value stack, rfl, rfl⟩
  | itemOrEnd =>
    by_cases closes : token = .closeList
    · subst closes
      exact Or.inr (Or.inl ⟨⟨.following (.list []), stack⟩, rfl, rfl, rfl⟩)
    · have awaits := awaitsValue_itemOrEnd stack
      exact Or.inl ⟨.list [] :: stack, awaits, rfl, awaits token position closes⟩
  | key done => exact Or.inr (key done)
  | keyOrEnd =>
    by_cases closes : token = .closeMap
    · subst closes
      exact Or.inr (Or.inl ⟨⟨.following (.map []), stack⟩, rfl, rfl, rfl⟩)
    · have other : step ⟨.keyOrEnd, stack⟩ (token, position) = stepKey [] stack position token := by
        cases token <;> first | rfl | exact absurd rfl closes
      rw [other]
      exact Or.inr (key [])
  | colon done name =>
    cases token with
    | colon => exact Or.inr (Or.inl ⟨⟨.value, .map done name :: stack⟩, rfl, rfl, rfl⟩)
    | _ => exact Or.inr (Or.inr ⟨_, _, rfl⟩)
  | following complete =>
    refine Or.inr ?_
    show (∃ next, stepFollowing complete position stack token = .ok next ∧ _ ∧
      next.depth + token.isClosing.toNat = stack.length) ∨
        ∃ complaint place,
          stepFollowing complete position stack token = .error (.malformed complaint place)
    unfold stepFollowing
    split
    · exact Or.inl ⟨_, rfl, rfl, rfl⟩
    · exact Or.inl ⟨_, rfl, rfl, rfl⟩
    · exact Or.inl ⟨_, rfl, rfl, rfl⟩
    · exact Or.inl ⟨_, rfl, rfl, rfl⟩
    · exact Or.inr ⟨_, _, rfl⟩
    · exact Or.inr ⟨_, _, rfl⟩

/-- What a token does where a value may come: a bracket is refused where too many are open, and an
integer with too many digits is refused anywhere. -/
theorem stepValue_cases (stack : List Frame) (position : Nat) (token : Token) :
    (∃ next, stepValue stack position token = .ok next ∧ token.isClosing = false ∧
      next.depth = stack.length + token.isOpening.toNat) ∨
    (∃ complaint place, stepValue stack position token = .error (.malformed complaint place)) ∨
    (∃ digits, token = .longInteger digits ∧
      stepValue stack position token = .error (.longInteger digits)) ∨
    token.isOpening = true ∧ deepest ≤ stack.length ∧
      stepValue stack position token = .error .tooDeep := by
  have bracket (expected : Expected) :
      (deepest ≤ stack.length ∧ opening expected stack = .error .tooDeep) ∨
        opening expected stack = .ok ⟨expected, stack⟩ := by
    by_cases deep : deepest ≤ stack.length
    · exact Or.inl ⟨deep, if_pos deep⟩
    · exact Or.inr (if_neg deep)
  cases token with
  | openList =>
    rcases bracket .itemOrEnd with ⟨deep, refused⟩ | opened
    · exact Or.inr (Or.inr (Or.inr ⟨rfl, deep, refused⟩))
    · exact Or.inl ⟨_, opened, rfl, rfl⟩
  | openMap =>
    rcases bracket .keyOrEnd with ⟨deep, refused⟩ | opened
    · exact Or.inr (Or.inr (Or.inr ⟨rfl, deep, refused⟩))
    · exact Or.inl ⟨_, opened, rfl, rfl⟩
  | text content => exact Or.inl ⟨⟨.following (.string content), stack⟩, rfl, rfl, rfl⟩
  | scalar content => exact Or.inl ⟨⟨.following (.scalar content), stack⟩, rfl, rfl, rfl⟩
  | longInteger digits => exact Or.inr (Or.inr (Or.inl ⟨digits, rfl, rfl⟩))
  | closeList | closeMap | colon | comma | unreadable _ _ | foreign =>
    exact Or.inr (Or.inl ⟨_, _, rfl⟩)

/-- A token opens or closes one more, or leaves as many open as there were. -/
theorem depth_step {reading next : Reading} {token : Token × Nat}
    (stepped : step reading token = .ok next) :
    next.depth + token.1.isClosing.toNat = reading.depth + token.1.isOpening.toNat := by
  rcases step_cases reading token with
    ⟨stack, _, depth, asValue⟩ | ⟨other, made, opens, depth⟩ | ⟨_, _, mistaken⟩
  · rw [asValue] at stepped
    rcases stepValue_cases stack token.2 token.1 with
      ⟨other, made, closes, grown⟩ | ⟨_, _, mistaken⟩ | ⟨_, _, long⟩ | ⟨_, _, deep⟩
    · obtain rfl := Except.ok.inj (stepped.symm.trans made)
      rw [grown, closes, depth, Bool.toNat_false, Nat.add_zero]
    · cases stepped.symm.trans mistaken
    · cases stepped.symm.trans long
    · cases stepped.symm.trans deep
  · obtain rfl := Except.ok.inj (stepped.symm.trans made)
    rw [depth, opens, Bool.toNat_false, Nat.add_zero]
  · cases stepped.symm.trans mistaken

/-- Whether a value may come in a state. -/
def Reading.TakesValue (reading : Reading) : Prop := ∃ stack, reading.AwaitsValue stack

/-- The stack on which a value is put is as high as there are lists and maps open. -/
theorem Reading.AwaitsValue.length_eq {reading : Reading} {stack : List Frame}
    (awaits : reading.AwaitsValue stack) : stack.length = reading.depth :=
  depth_step (awaits (.scalar .null) 0 nofun)

theorem step_eq_longInteger_iff (reading : Reading) (token : Token × Nat) (digits : Nat) :
    step reading token = .error (.longInteger digits) ↔
      token.1 = .longInteger digits ∧ reading.TakesValue := by
  constructor
  · intro stopped
    rcases step_cases reading token with
      ⟨stack, awaits, _, asValue⟩ | ⟨_, made, _⟩ | ⟨_, _, mistaken⟩
    · rw [asValue] at stopped
      rcases stepValue_cases stack token.2 token.1 with
        ⟨_, made, _⟩ | ⟨_, _, mistaken⟩ | ⟨_, same, long⟩ | ⟨_, _, deep⟩
      · cases stopped.symm.trans made
      · cases stopped.symm.trans mistaken
      · cases stopped.symm.trans long
        exact ⟨same, stack, awaits⟩
      · cases stopped.symm.trans deep
    · cases stopped.symm.trans made
    · cases stopped.symm.trans mistaken
  · rintro ⟨same, stack, awaits⟩
    obtain ⟨token, position⟩ := token
    subst same
    exact awaits (.longInteger digits) position nofun

theorem step_eq_tooDeep_iff (reading : Reading) (token : Token × Nat) :
    step reading token = .error .tooDeep ↔
      token.1.isOpening = true ∧ reading.TakesValue ∧ deepest ≤ reading.depth := by
  constructor
  · intro stopped
    rcases step_cases reading token with
      ⟨stack, awaits, depth, asValue⟩ | ⟨_, made, _⟩ | ⟨_, _, mistaken⟩
    · rw [asValue] at stopped
      rcases stepValue_cases stack token.2 token.1 with
        ⟨_, made, _⟩ | ⟨_, _, mistaken⟩ | ⟨_, _, long⟩ | ⟨opens, deep, _⟩
      · cases stopped.symm.trans made
      · cases stopped.symm.trans mistaken
      · cases stopped.symm.trans long
      · exact ⟨opens, ⟨stack, awaits⟩, depth ▸ deep⟩
    · cases stopped.symm.trans made
    · cases stopped.symm.trans mistaken
  · rintro ⟨opens, ⟨stack, awaits⟩, deep⟩
    obtain ⟨token, position⟩ := token
    rw [← awaits.length_eq] at deep
    have apart : token ≠ .closeList := fun same => by cases same; cases opens
    rw [awaits token position apart]
    cases token with
    | openList | openMap => exact if_pos deep
    | _ => cases opens

/-! ### Long integers -/

/-- So many digits in a row, and more than an integer may have. -/
structure IsLongRun (digits : Nat) (run : List Char) : Prop where
  each : ∀ digit ∈ run, Text.isAsciiDigit digit = true
  length_eq : run.length = digits
  long : Text.longestInteger < digits

theorem wholeDigits_prefix (characters : List Char) : wholeDigits characters <+: characters := by
  unfold wholeDigits
  split
  · next rest => exact ⟨rest, rfl⟩
  · exact List.takeWhile_prefix _

theorem isLongRun_of_readNumber? {negative : Bool} {characters : List Char} {digits length : Nat}
    (found : readNumber? negative characters = some (.longInteger digits, length)) :
    IsLongRun digits (wholeDigits characters) := by
  simp only [readNumber?] at found
  split at found
  · cases found
  · split at found
    · cases found
    · split at found
      · cases found
      · split at found
        · next long =>
          cases found
          exact ⟨fun _ => isAsciiDigit_of_mem_wholeDigits, rfl, long⟩
        · cases found

/-- An integer of too many digits is written with that many digits in a row. -/
theorem exists_isLongRun_of_tokenAt {position : Nat} {character : Char} {rest : List Char}
    {digits : Nat} (found : (tokenAt position character rest).1 = .longInteger digits) :
    ∃ front run back, character :: rest = front ++ run ++ back ∧ IsLongRun digits run := by
  have number {negative : Bool} {characters : List Char} {length : Nat} (front : List Char)
      (read : readNumber? negative characters = some (.longInteger digits, length)) :
      ∃ before run back, front ++ characters = before ++ run ++ back ∧ IsLongRun digits run := by
    obtain ⟨back, cut⟩ := wholeDigits_prefix characters
    refine ⟨front, wholeDigits characters, back, ?_, isLongRun_of_readNumber? read⟩
    rw [List.append_assoc, cut]
  have plain : (plainTokenAt (character :: rest)).1 = .longInteger digits := by
    unfold tokenAt at found
    split at found
    all_goals first | cases found | skip
    · split at found <;> cases found
    · exact found
  unfold plainTokenAt at plain
  split at plain
  · next word =>
    obtain ⟨_, _, rfl⟩ := Option.map_eq_some_iff.1 word
    cases plain
  · split at plain
    · next cut =>
      split at plain
      · next read =>
        subst plain
        rw [cut]
        exact number ['-'] read
      · cases plain
    · cases read : readNumber? false (character :: rest) with
      | none =>
        rw [read] at plain
        cases plain
      | some token =>
        obtain ⟨token, length⟩ := token
        rw [read] at plain
        subst plain
        exact number [] read

/-! ### Texts -/

/-- Behind tokens that can be read, what they open is open unless they close it. -/
theorem depth_foldlM {found : List (Token × Nat)} {reading next : Reading}
    (reached : found.foldlM step reading = .ok next) :
    next.depth + found.countP (·.1.isClosing) =
      reading.depth + found.countP (·.1.isOpening) := by
  induction found generalizing reading with
  | nil =>
    cases reached
    rfl
  | cons token rest inductionHypothesis =>
    rw [List.foldlM_cons, bind_eq_ok_iff] at reached
    obtain ⟨between, stepped, further⟩ := reached
    have here := depth_step stepped
    have others := inductionHypothesis further
    have counts (belongs : Token × Nat → Bool) :
        (token :: rest).countP belongs = rest.countP belongs + (belongs token).toNat := by
      rw [List.countP_cons]
      cases belongs token <;> rfl
    rw [counts, counts]
    omega

theorem depth_eq_openBehind {found : List (Token × Nat)} {reading : Reading}
    (reached : found.foldlM step .start = .ok reading) : reading.depth = openBehind found := by
  have balance := depth_foldlM reached
  have start : Reading.start.depth = 0 := rfl
  unfold openBehind
  omega

/-- Tokens that can be read, and behind which a value may come. -/
def LeadToValue (found : List (Token × Nat)) : Prop :=
  ∃ reading, found.foldlM step .start = .ok reading ∧ reading.TakesValue

/-- A text has an integer of too many digits where a value may come. -/
def HasLongInteger (text : String) (digits : Nat) : Prop :=
  ∃ front position back, tokens text.toList = front ++ (.longInteger digits, position) :: back ∧
    LeadToValue front

/-- A text opens a list or a map inside too many others, where a value may come. -/
def NestsTooDeep (text : String) : Prop :=
  ∃ front bracket position back, tokens text.toList = front ++ (bracket, position) :: back ∧
    bracket.isOpening = true ∧ LeadToValue front ∧ deepest ≤ openBehind front

/-- Reading ends with an error that is no complaint at the first token that is refused with it. -/
theorem read_eq_error_iff (text : String) {error : Error}
    (limit : ∀ complaint position, error ≠ .malformed complaint position) :
    read text = .error error ↔
      ∃ front token back reading, tokens text.toList = front ++ token :: back ∧
        front.foldlM step .start = .ok reading ∧ step reading token = .error error := by
  have finish (reading : Reading) (length : Nat) : reading.finish length ≠ .error error := by
    unfold Reading.finish
    split
    · nofun
    · exact fun same => limit _ _ (Except.error.inj same).symm
  rw [← foldlM_eq_error_iff]
  unfold read readCharacters
  split
  · next rest marked =>
    -- A byte-order mark is a token that is refused too, although with another complaint.
    have mark : tokens ('\uFEFF' :: rest) = (.foreign, 0) :: tokensFrom 0 1 rest := rfl
    rw [marked, mark]
    exact ⟨fun same => absurd (Except.error.inj same).symm (limit _ _),
      fun same => absurd (Except.error.inj same).symm (limit _ _)⟩
  · unfold readTokens
    rw [bind_eq_error_iff]
    exact ⟨fun either => either.resolve_right fun ⟨reading, _, stopped⟩ =>
      finish reading _ stopped, Or.inl⟩

theorem read_eq_longInteger_iff (text : String) (digits : Nat) :
    read text = .error (.longInteger digits) ↔ HasLongInteger text digits := by
  rw [read_eq_error_iff text fun _ _ same => Error.noConfusion same]
  simp only [step_eq_longInteger_iff]
  constructor
  · rintro ⟨front, ⟨token, position⟩, back, reading, cut, reached, rfl, takes⟩
    exact ⟨front, position, back, cut, reading, reached, takes⟩
  · rintro ⟨front, position, back, cut, reading, reached, takes⟩
    exact ⟨front, _, back, reading, cut, reached, rfl, takes⟩

theorem read_eq_tooDeep_iff (text : String) :
    read text = .error .tooDeep ↔ NestsTooDeep text := by
  rw [read_eq_error_iff text fun _ _ same => Error.noConfusion same]
  simp only [step_eq_tooDeep_iff]
  constructor
  · rintro ⟨front, ⟨token, position⟩, back, reading, cut, reached, opens, takes, deep⟩
    exact ⟨front, token, position, back, cut, opens, ⟨reading, reached, takes⟩,
      depth_eq_openBehind reached ▸ deep⟩
  · rintro ⟨front, token, position, back, cut, opens, ⟨reading, reached, takes⟩, deep⟩
    exact ⟨front, _, back, reading, cut, reached, opens, takes,
      (depth_eq_openBehind reached).symm ▸ deep⟩

/-- A text that is not beyond what can be read. -/
structure IsWithinLimits (text : String) : Prop where
  integers : ∀ digits, ¬HasLongInteger text digits
  depth : ¬NestsTooDeep text

/-- A text within the limits has a value or is no JSON, and no other text is either. -/
theorem isWithinLimits_iff (text : String) :
    IsWithinLimits text ↔ (∃ value, read text = .ok value) ∨
      ∃ complaint position, read text = .error (.malformed complaint position) := by
  constructor
  · intro within
    cases found : read text with
    | ok value => exact Or.inl ⟨value, rfl⟩
    | error error =>
      cases error with
      | malformed complaint position => exact Or.inr ⟨complaint, position, rfl⟩
      | longInteger digits =>
        exact absurd ((read_eq_longInteger_iff text digits).1 found) (within.integers digits)
      | tooDeep => exact absurd ((read_eq_tooDeep_iff text).1 found) within.depth
  · intro found
    have other {error : Error} (stopped : read text = .error error) :
        ∃ complaint position, error = .malformed complaint position := by
      rcases found with ⟨value, read⟩ | ⟨complaint, position, refused⟩
      · cases stopped.symm.trans read
      · exact ⟨complaint, position, Except.error.inj (stopped.symm.trans refused)⟩
    constructor
    · intro digits long
      obtain ⟨_, _, same⟩ := other ((read_eq_longInteger_iff text digits).2 long)
      cases same
    · intro deep
      obtain ⟨_, _, same⟩ := other ((read_eq_tooDeep_iff text).2 deep)
      cases same

/-! ### Short texts -/

/-- An integer of too many digits is so many digits in a row. -/
theorem HasLongInteger.exists_isLongRun {text : String} {digits : Nat}
    (long : HasLongInteger text digits) :
    ∃ front run back, text.toList = front ++ run ++ back ∧ IsLongRun digits run := by
  obtain ⟨_, position, _, cut, _⟩ := long
  have member : (Token.longInteger digits, position) ∈ tokens text.toList := by
    rw [cut]
    exact List.mem_append_right _ List.mem_cons_self
  obtain ⟨front, character, rest, same, token⟩ := exists_tokenAt_of_mem_tokensFrom _ _ _ member
  obtain ⟨before, run, back, inside, isRun⟩ := exists_isLongRun_of_tokenAt token.symm
  exact ⟨front ++ before, run, back, by rw [same, inside]; simp, isRun⟩

/-- A text has no more tokens than characters. -/
theorem length_tokensFrom_le (skip position : Nat) (characters : List Char) :
    (tokensFrom skip position characters).length ≤ characters.length := by
  induction characters generalizing skip position with
  | nil => cases skip <;> exact Nat.zero_le _
  | cons character rest inductionHypothesis =>
    cases skip with
    | succ skip => exact Nat.le_succ_of_le (inductionHypothesis _ _)
    | zero =>
      rw [tokensFrom]
      split
      · exact Nat.le_succ_of_le (inductionHypothesis _ _)
      · exact Nat.succ_le_succ (inductionHypothesis _ _)

/-- A short text is within the limits: it has no room for what is beyond them. -/
theorem isWithinLimits_of_length_le {text : String} (short : text.toList.length ≤ deepest) :
    IsWithinLimits text where
  integers digits long := by
    obtain ⟨front, run, back, same, isRun⟩ := long.exists_isLongRun
    have room : run.length ≤ text.toList.length := by
      rw [same, List.length_append, List.length_append]
      omega
    have least := isRun.long
    rw [isRun.length_eq] at room
    simp only [deepest, Text.longestInteger] at short least
    omega
  depth := by
    rintro ⟨front, bracket, position, back, cut, _, _, deep⟩
    have room := length_tokensFrom_le 0 0 text.toList
    have taken : (tokensFrom 0 0 text.toList).length = front.length + (back.length + 1) := by
      rw [show tokensFrom 0 0 text.toList = front ++ (bracket, position) :: back from cut,
        List.length_append, List.length_cons]
    have opened : front.countP (·.1.isOpening) ≤ front.length := List.countP_le_length
    unfold openBehind at deep
    omega

end ClientModel.Json
