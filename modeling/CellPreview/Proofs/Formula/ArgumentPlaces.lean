import CellPreview.Proofs.Formula.Splitting

/-!
# Places of arguments

As long as a call is not closed, the level at a place is the number of
parentheses that are opened before it less those that are closed. So the level
of the search may be forgotten: a call ends at the first closing parenthesis
before which as many are opened as closed, and its arguments are what stands
between the commas of which the same is true.
-/

namespace CellPreview
namespace Formula

/-- Parentheses that a run of tokens opens, less those that it closes. -/
def balance (run : List Token.Kind) : Int :=
  run.count .leftParen - run.count .rightParen

@[simp] theorem balance_nil : balance [] = 0 := rfl

@[simp] theorem balance_append (first second : List Token.Kind) :
    balance (first ++ second) = balance first + balance second := by
  simp only [balance, List.count_append]
  omega

theorem balance_cons (kind : Token.Kind) (run : List Token.Kind) :
    balance (kind :: run) = balance [kind] + balance run :=
  balance_append [kind] run

/-- Runs that never close more parentheses than they have opened, and close all
of these. -/
structure IsBalanced (run : List Token.Kind) : Prop where
  balance_nonneg : ∀ before, before <+: run -> 0 ≤ balance before
  balance_eq_zero : balance run = 0

/-- There is a token of a kind at a place, and from a start to this place as
many parentheses are opened as closed. -/
structure IsOutermost
    (tokens : List Token)
    (start : Nat)
    (kind : Token.Kind)
    (place : Nat) : Prop where
  start_le : start ≤ place
  kind_eq : (kinds tokens)[place]? = some kind
  balance_eq_zero : balance (kinds (tokens.extract start place)) = 0

theorem IsOutermost.exists_token
    {tokens : List Token}
    {start place : Nat}
    {kind : Token.Kind}
    (outermost : IsOutermost tokens start kind place) :
    ∃ token, tokens[place]? = some token ∧ token.kind = kind := by
  have isKind := outermost.kind_eq
  rwa [kinds, List.getElem?_map, Option.map_eq_some_iff] at isKind

/-- The ranges from a start to a stop between places that separate them. -/
def ranges (start : Nat) : List Nat -> Nat -> List (Nat × Nat)
  | [], stop => [(start, stop)]
  | place :: places, stop => (start, place) :: ranges (place + 1) places stop

theorem length_ranges (start stop : Nat) (places : List Nat) :
    (ranges start places stop).length = places.length + 1 := by
  induction places generalizing start with
  | nil => rfl
  | cons place places inductionHypothesis =>
      rw [ranges, List.length_cons, inductionHypothesis, List.length_cons]

/-! ## Levels are counted -/

theorem balance_of_levelAfter?
    {kind : Token.Kind}
    {level next : Nat}
    (after : kind.levelAfter? level = some next) :
    (next : Int) = level + balance [kind] := by
  cases kind <;> simp [Token.Kind.levelAfter?] at after <;>
    simp [balance] <;> omega

/-- The level after a run is what the run opens and does not close. -/
theorem balance_of_levelThrough?
    {level last : Nat}
    {run : List Token.Kind}
    (through : levelThrough? level run = some last) :
    (last : Int) = level + balance run := by
  induction run generalizing level with
  | nil =>
      simp only [levelThrough?_nil, Option.some.injEq] at through
      simp [through]
  | cons kind run inductionHypothesis =>
      rw [levelThrough?_cons] at through
      obtain ⟨next, after, through⟩ := Option.bind_eq_some_iff.mp through
      have first := balance_of_levelAfter? after
      have others := inductionHypothesis through
      rw [balance_cons]
      omega

/-- Inside of an argument, no comma and no closing parenthesis stands where as
many parentheses are opened as closed. -/
theorem IsArgument.balance_ne_zero
    {before after : List Token.Kind}
    {kind : Token.Kind}
    (argument : IsArgument (before ++ kind :: after))
    (delimits : kind = .comma ∨ kind = .rightParen) :
    balance before ≠ 0 := by
  rw [IsArgument, levelThrough?_append] at argument
  obtain ⟨level, through, further⟩ := Option.bind_eq_some_iff.mp argument
  have counted := balance_of_levelThrough? through
  intro balanced
  have outermost : level = 0 := by omega
  rw [levelThrough?_cons,
    (kind.levelAfter?_eq_none_iff level).mpr ⟨outermost, delimits⟩] at further
  cases further

theorem IsArgument.isBalanced
    {run : List Token.Kind}
    (argument : IsArgument run) :
    IsBalanced run where
  balance_nonneg := by
    rintro before ⟨after, rfl⟩
    rw [IsArgument, levelThrough?_append] at argument
    obtain ⟨level, through, _⟩ := Option.bind_eq_some_iff.mp argument
    have counted := balance_of_levelThrough? through
    omega
  balance_eq_zero := by
    have counted := balance_of_levelThrough? argument
    omega

/-- Where no call is closed, no more parentheses are closed than opened. -/
theorem balance_nonneg_of_segments?_eq_none
    {level : Nat}
    {tokens : List Token}
    (absent : segments? level tokens = none)
    {before : List Token}
    (isPrefix : before <+: tokens) :
    0 ≤ level + balance (kinds before) := by
  induction tokens generalizing level before with
  | nil => simp [List.prefix_nil.mp isPrefix]
  | cons token rest inductionHypothesis =>
      obtain rfl | ⟨before, rfl, inRest⟩ := List.prefix_cons_iff.mp isPrefix
      · simp
      rw [kinds_cons, balance_cons]
      cases stays : token.kind.levelAfter? level with
      | some next =>
          rw [segments?_cons_of_levelAfter? stays,
            Option.map_eq_none_iff] at absent
          have further := inductionHypothesis absent inRest
          have counted := balance_of_levelAfter? stays
          omega
      | none =>
          obtain ⟨rfl, isComma | isClosing⟩ :=
            (Token.Kind.levelAfter?_eq_none_iff token.kind level).mp stays
          · rw [segments?_cons_comma isComma, Option.map_eq_none_iff] at absent
            have further := inductionHypothesis absent inRest
            rw [isComma]
            simpa [balance] using further
          · rw [segments?_cons_rightParen isClosing] at absent
            cases absent

/-! ## Places -/

section

variable {tokens rest segment : List Token} {start : Nat}

theorem extract_of_drop_eq
    (remaining : tokens.drop start = segment ++ rest) :
    tokens.extract start (start + segment.length) = segment := by
  rw [List.extract_eq_take_drop, remaining, Nat.add_sub_cancel_left,
    List.take_left]

theorem drop_of_drop_eq
    {delimiter : Token}
    (remaining : tokens.drop start = segment ++ delimiter :: rest) :
    tokens.drop (start + segment.length + 1) = rest := by
  rw [Nat.add_assoc, ← List.drop_drop, remaining, ← List.drop_drop,
    List.drop_left, List.drop_one, List.tail_cons]

theorem extract_append
    {middle place : Nat}
    (startLe : start ≤ middle)
    (middleLe : middle ≤ place) :
    tokens.extract start place =
      tokens.extract start middle ++ tokens.extract middle place := by
  simp only [List.extract_eq_take_drop]
  rw [show place - start = (middle - start) + (place - middle) by omega,
    List.take_add, List.drop_drop, Nat.add_sub_cancel' startLe]

/-- Behind tokens that open as many parentheses as they close, the same tokens
are outermost. -/
theorem isOutermost_iff_of_balance_eq_zero
    {middle place : Nat}
    {kind : Token.Kind}
    (startLe : start ≤ middle)
    (balanced : balance (kinds (tokens.extract start middle)) = 0)
    (middleLe : middle ≤ place) :
    IsOutermost tokens start kind place ↔
      IsOutermost tokens middle kind place := by
  have same : balance (kinds (tokens.extract start place)) =
      balance (kinds (tokens.extract middle place)) := by
    rw [extract_append startLe middleLe, kinds_append, balance_append,
      balanced, Int.zero_add]
  constructor
  · intro outermost
    exact ⟨middleLe, outermost.kind_eq, same ▸ outermost.balance_eq_zero⟩
  · intro outermost
    exact ⟨Nat.le_trans startLe middleLe, outermost.kind_eq,
      same ▸ outermost.balance_eq_zero⟩

/-- No comma and no closing parenthesis inside of an argument is outermost. -/
theorem IsArgument.not_isOutermost
    {kind : Token.Kind}
    {place : Nat}
    (argument : IsArgument (kinds segment))
    (remaining : tokens.drop start = segment ++ rest)
    (delimits : kind = .comma ∨ kind = .rightParen)
    (inside : place < start + segment.length) :
    ¬IsOutermost tokens start kind place := by
  rintro ⟨startLe, isKind, balanced⟩
  obtain ⟨distance, rfl⟩ := Nat.exists_eq_add_of_le startLe
  have distance_lt : distance < segment.length := by omega
  have before : tokens.extract start (start + distance) =
      segment.take distance := by
    rw [List.extract_eq_take_drop, remaining, Nat.add_sub_cancel_left,
      List.take_append_of_le_length (Nat.le_of_lt distance_lt)]
  have here : (kinds segment)[distance]? = some kind := by
    rw [kinds, List.getElem?_map, ← List.getElem?_drop, remaining,
      List.getElem?_append_left distance_lt, ← List.getElem?_map] at isKind
    exact isKind
  have split : kinds segment = kinds (segment.take distance) ++
      kind :: (kinds segment).drop (distance + 1) := by
    obtain ⟨_, rfl⟩ := List.getElem?_eq_some_iff.mp here
    rw [show kinds (segment.take distance) = (kinds segment).take distance
      from List.map_take, List.getElem_cons_drop, List.take_append_drop]
  rw [split] at argument
  rw [before] at balanced
  exact argument.balance_ne_zero delimits balanced

/-- The token behind an argument is outermost. -/
theorem IsArgument.isOutermost_iff
    {delimiter : Token}
    {kind : Token.Kind}
    (argument : IsArgument (kinds segment))
    (remaining : tokens.drop start = segment ++ delimiter :: rest) :
    IsOutermost tokens start kind (start + segment.length) ↔
      delimiter.kind = kind := by
  have here : (kinds tokens)[start + segment.length]? =
      some delimiter.kind := by
    rw [kinds, List.getElem?_map, ← List.getElem?_drop, remaining,
      List.getElem?_append_right (Nat.le_refl _), Nat.sub_self,
      List.getElem?_cons_zero, Option.map_some]
  constructor
  · intro outermost
    rw [outermost.kind_eq, Option.some.injEq] at here
    exact here.symm
  · rintro rfl
    refine ⟨Nat.le_add_right _ _, here, ?_⟩
    rw [extract_of_drop_eq remaining]
    exact argument.isBalanced.balance_eq_zero

/-- Before the next comma nothing that delimits an argument is outermost, and
behind the comma what is outermost there. -/
theorem IsArgument.isOutermost_iff_of_comma
    {comma : Token}
    {kind : Token.Kind}
    {place : Nat}
    (argument : IsArgument (kinds segment))
    (remaining : tokens.drop start = segment ++ comma :: rest)
    (isComma : comma.kind = .comma)
    (delimits : kind = .comma ∨ kind = .rightParen) :
    IsOutermost tokens start kind place ↔
      (place = start + segment.length ∧ kind = .comma) ∨
        IsOutermost tokens (start + segment.length + 1) kind place := by
  have remaining' : tokens.drop start = (segment ++ [comma]) ++ rest := by
    simpa using remaining
  have balanced : balance (kinds (tokens.extract start
      (start + segment.length + 1))) = 0 := by
    have upTo := extract_of_drop_eq remaining'
    rw [List.length_append, List.length_singleton, ← Nat.add_assoc] at upTo
    rw [upTo, kinds_append, balance_append,
      argument.isBalanced.balance_eq_zero, kinds_cons, isComma]
    rfl
  obtain before | rfl | behind :=
    Nat.lt_trichotomy place (start + segment.length)
  · have notHere := argument.not_isOutermost remaining delimits before
    constructor
    · exact fun outermost => absurd outermost notHere
    · rintro (⟨same, _⟩ | outermost)
      · omega
      · have startLe := outermost.start_le
        omega
  · rw [argument.isOutermost_iff remaining, isComma]
    constructor
    · rintro rfl
      exact .inl ⟨rfl, rfl⟩
    · rintro (⟨_, isKind⟩ | outermost)
      · exact isKind.symm
      · have startLe := outermost.start_le
        omega
  · rw [isOutermost_iff_of_balance_eq_zero (by omega) balanced behind]
    constructor
    · exact .inr
    · rintro (⟨same, _⟩ | outermost)
      · omega
      · exact outermost

/-! ## Segments of a call -/

/-- The segments of a call with their places: the first token inside of the call
is at `start`, the closing parenthesis at `close`, and between two segments is
one of the `commas`. -/
structure ArePlaced
    (tokens : List Token)
    (start close : Nat)
    (commas : List Nat)
    (segments : List (List Token)) : Prop where
  closes : IsOutermost tokens start .rightParen close
  closes_first : ∀ place < close, ¬IsOutermost tokens start .rightParen place
  ordered : commas.Pairwise (· < ·)
  mem_commas : ∀ place, place ∈ commas ↔
    place < close ∧ IsOutermost tokens start .comma place
  segments_eq : segments = (ranges start commas close).map fun range =>
    tokens.extract range.1 range.2

theorem IsArgument.arePlaced_last
    {closing : Token}
    (argument : IsArgument (kinds segment))
    (remaining : tokens.drop start = segment ++ closing :: rest)
    (isClosing : closing.kind = .rightParen) :
    ArePlaced tokens start (start + segment.length) [] [segment] where
  closes := (argument.isOutermost_iff remaining).mpr isClosing
  closes_first _ := argument.not_isOutermost remaining (.inr rfl)
  ordered := .nil
  mem_commas place := by
    refine ⟨nofun, fun ⟨before, outermost⟩ => ?_⟩
    exact absurd outermost
      (argument.not_isOutermost remaining (.inl rfl) before)
  segments_eq := by
    simp only [ranges, List.map_cons, List.map_nil,
      extract_of_drop_eq remaining]

theorem IsArgument.arePlaced_more
    {comma : Token}
    {close : Nat}
    {commas : List Nat}
    {segments : List (List Token)}
    (argument : IsArgument (kinds segment))
    (remaining : tokens.drop start = segment ++ comma :: rest)
    (isComma : comma.kind = .comma)
    (arePlaced : ArePlaced tokens (start + segment.length + 1) close commas
      segments) :
    ArePlaced tokens start close ((start + segment.length) :: commas)
      (segment :: segments) where
  closes := (argument.isOutermost_iff_of_comma remaining isComma
    (.inr rfl)).mpr (.inr arePlaced.closes)
  closes_first place before outermost := by
    obtain ⟨_, never⟩ | behind := (argument.isOutermost_iff_of_comma remaining
      isComma (.inr rfl)).mp outermost
    · cases never
    · exact arePlaced.closes_first place before behind
  ordered := by
    refine .cons (fun place present => ?_) arePlaced.ordered
    exact ((arePlaced.mem_commas place).mp present).2.start_le
  mem_commas place := by
    have startLe := arePlaced.closes.start_le
    rw [List.mem_cons, arePlaced.mem_commas,
      argument.isOutermost_iff_of_comma remaining isComma (.inl rfl)]
    constructor
    · rintro (rfl | ⟨before, outermost⟩)
      · exact ⟨startLe, .inl ⟨rfl, rfl⟩⟩
      · exact ⟨before, .inr outermost⟩
    · rintro ⟨before, ⟨rfl, _⟩ | outermost⟩
      · exact .inl rfl
      · exact .inr ⟨before, outermost⟩
  segments_eq := by
    rw [ranges, List.map_cons, ← arePlaced.segments_eq,
      extract_of_drop_eq remaining]

end

/-- The segments of a call have places, and the call ends with its closing
parenthesis. -/
theorem Split.exists_arePlaced
    {tokens rest after : List Token}
    {start : Nat}
    {segments : List (List Token)}
    (split : Split 0 rest segments after)
    (remaining : tokens.drop start = rest) :
    ∃ close commas, ArePlaced tokens start close commas segments ∧
      after = tokens.drop (close + 1) := by
  generalize zero : 0 = level at split
  induction split generalizing start with
  | @last level segment after closing through isClosing =>
      subst zero
      exact ⟨_, _, IsArgument.arePlaced_last through remaining isClosing,
        (drop_of_drop_eq remaining).symm⟩
  | @more level segment rest after comma others through isComma _
      inductionHypothesis =>
      subst zero
      obtain ⟨close, commas, arePlaced, afterEq⟩ :=
        inductionHypothesis (drop_of_drop_eq remaining) rfl
      exact ⟨close, _, IsArgument.arePlaced_more through remaining isComma
        arePlaced, afterEq⟩

/-- A call is closed exactly where a closing parenthesis is outermost. -/
theorem arguments?_eq_none_iff {tokens : List Token} {start : Nat} :
    arguments? (tokens.drop start) = none ↔
      ∀ place, ¬IsOutermost tokens start .rightParen place := by
  rw [arguments?, Option.map_eq_none_iff]
  constructor
  · intro absent place outermost
    obtain ⟨distance, rfl⟩ := Nat.exists_eq_add_of_le outermost.start_le
    obtain ⟨closing, found, isClosing⟩ := outermost.exists_token
    have balanced := outermost.balance_eq_zero
    -- the closing parenthesis closes more than what is opened before it
    have bound := balance_nonneg_of_segments?_eq_none absent
      (List.take_prefix (distance + 1) _)
    rw [List.extract_eq_take_drop, Nat.add_sub_cancel_left] at balanced
    rw [List.take_add_one, List.getElem?_drop, found, Option.toList_some,
      kinds_append, balance_append, balanced, kinds_cons, isClosing] at bound
    simp [balance] at bound
  · intro noneCloses
    rw [Option.eq_none_iff_forall_ne_some]
    rintro ⟨segments, after⟩ found
    obtain ⟨close, _, arePlaced, _⟩ :=
      (Split.of_segments? found).exists_arePlaced rfl
    exact noneCloses close arePlaced.closes

namespace ArePlaced

variable {tokens : List Token} {start close : Nat} {commas : List Nat}
  {segments : List (List Token)}

theorem close_lt_length
    (arePlaced : ArePlaced tokens start close commas segments) :
    close < tokens.length := by
  obtain ⟨_, found, _⟩ := arePlaced.closes.exists_token
  exact (List.getElem?_eq_some_iff.mp found).1

/-- There is nothing inside of the call exactly if it is closed at once. -/
theorem eq_singleton_nil_iff
    (arePlaced : ArePlaced tokens start close commas segments) :
    segments = [[]] ↔ close = start := by
  have startLe := arePlaced.closes.start_le
  have close_lt := arePlaced.close_lt_length
  rw [arePlaced.segments_eq]
  cases commas with
  | nil =>
      rw [ranges, List.map_singleton, List.singleton_inj,
        List.extract_eq_take_drop, ← List.length_eq_zero_iff, List.length_take,
        List.length_drop]
      omega
  | cons comma commas =>
      have isComma := (arePlaced.mem_commas comma).mp List.mem_cons_self
      have comma_lt := isComma.1
      have le_comma := isComma.2.start_le
      constructor
      · intro single
        have lengths := congrArg List.length single
        rw [List.length_map, length_ranges] at lengths
        cases lengths
      · omega

/-- The segments of a call, joined by commas, are what stands inside of it. -/
theorem kinds_extract
    {after : List Token}
    (arePlaced : ArePlaced tokens start close commas segments)
    (split : Split 0 (tokens.drop start) segments after)
    (afterEq : after = tokens.drop (close + 1)) :
    kinds (tokens.extract start close) =
      [Token.Kind.comma].intercalate (segments.map kinds) := by
  have startLe := arePlaced.closes.start_le
  have close_lt := arePlaced.close_lt_length
  obtain ⟨closing, found, isClosing⟩ := arePlaced.closes.exists_token
  obtain ⟨inside, remaining, splitInside⟩ := split.exists_call
  have lengths := congrArg List.length remaining
  rw [afterEq, List.length_append, List.length_drop,
    List.length_drop] at lengths
  have whole : inside = tokens.extract start close ++ [closing] := by
    rw [← extract_of_drop_eq remaining,
      show start + inside.length = close + 1 by omega,
      extract_append startLe (Nat.le_add_right close 1)]
    congr 1
    rw [List.extract_eq_take_drop, Nat.add_sub_cancel_left, List.take_one,
      List.head?_drop, found, Option.toList_some]
  have joined := kinds_eq_of_split splitInside
  rw [whole, kinds_append, kinds_cons, isClosing] at joined
  exact List.append_cancel_right joined

end ArePlaced

/-- The arguments of a call whose first token inside is at `start` and whose
closing parenthesis is at `close`, with the places of the commas between
them. -/
structure AreArguments
    (tokens : List Token)
    (start close : Nat)
    (commas : List Nat)
    (arguments : List (List Token)) : Prop where
  /-- The commas are those at level zero inside of the call, in their order. -/
  ordered : commas.Pairwise (· < ·)
  mem_commas : ∀ place, place ∈ commas ↔
    place < close ∧ IsOutermost tokens start .comma place
  /-- The arguments are what stands between them, unless nothing is there. -/
  arguments_eq : arguments =
    if close = start then []
    else (ranges start commas close).map fun range =>
      tokens.extract range.1 range.2
  length_eq : arguments.length = if close = start then 0 else commas.length + 1
  kinds_eq : kinds (tokens.extract start close) =
    [Token.Kind.comma].intercalate (arguments.map kinds)
  balanced : ∀ argument ∈ arguments, IsBalanced (kinds argument)
  no_comma : ∀ argument ∈ arguments,
    ∀ place, ¬IsOutermost argument 0 .comma place

theorem IsArgument.not_isOutermost_comma
    {argument : List Token}
    (isArgument : IsArgument (kinds argument))
    (place : Nat) :
    ¬IsOutermost argument 0 .comma place := by
  intro outermost
  obtain ⟨_, found, _⟩ := outermost.exists_token
  have inside := (List.getElem?_eq_some_iff.mp found).1
  have whole : argument.drop 0 = argument ++ [] := by
    rw [List.drop_zero, List.append_nil]
  rw [← Nat.zero_add argument.length] at inside
  exact isArgument.not_isOutermost whole (.inl rfl) inside outermost

/-- The segments of a call are its arguments, unless there is nothing inside. -/
theorem Split.areArguments
    {tokens after : List Token}
    {start close : Nat}
    {commas : List Nat}
    {segments : List (List Token)}
    (split : Split 0 (tokens.drop start) segments after)
    (arePlaced : ArePlaced tokens start close commas segments)
    (afterEq : after = tokens.drop (close + 1)) :
    AreArguments tokens start close commas
      (if close = start then [] else segments) where
  ordered := arePlaced.ordered
  mem_commas := arePlaced.mem_commas
  arguments_eq := by rw [← arePlaced.segments_eq]
  length_eq := by
    split
    · rfl
    · rw [arePlaced.segments_eq, List.length_map, length_ranges]
  kinds_eq := by
    split
    next atOnce =>
      subst atOnce
      rw [List.extract_eq_take_drop, Nat.sub_self, List.take_zero]
      rfl
    next => exact arePlaced.kinds_extract split afterEq
  balanced argument present := by
    split at present
    · cases present
    · exact (split.isArgument argument present).isBalanced
  no_comma argument present := by
    split at present
    · cases present
    · exact (split.isArgument argument present).not_isOutermost_comma

/-- A call is cut into its arguments if and only if a closing parenthesis stands
at level zero behind its opening one. It ends at the first of these, and the
commas at level zero before this place separate its arguments. -/
theorem arguments_lie_between_commas (tokens : List Token) (start : Nat) :
    (arguments? (tokens.drop start) = none ↔
        ∀ place, ¬IsOutermost tokens start .rightParen place) ∧
      ∀ arguments after,
        arguments? (tokens.drop start) = some (arguments, after) ->
        ∃ close commas, IsOutermost tokens start .rightParen close ∧
          (∀ place < close, ¬IsOutermost tokens start .rightParen place) ∧
          after = tokens.drop (close + 1) ∧
          AreArguments tokens start close commas arguments := by
  refine ⟨arguments?_eq_none_iff, fun arguments after found => ?_⟩
  obtain ⟨⟨segments, remaining⟩, segmentsFound, same⟩ :=
    Option.map_eq_some_iff.mp found
  cases same
  have split := Split.of_segments? segmentsFound
  obtain ⟨close, commas, arePlaced, afterEq⟩ := split.exists_arePlaced rfl
  refine ⟨close, commas, arePlaced.closes, arePlaced.closes_first, afterEq, ?_⟩
  simp only [arePlaced.eq_singleton_nil_iff]
  exact split.areArguments arePlaced afterEq

/-- An empty argument, and one with a comma in it that separates none. A closing
parenthesis is left over. -/
theorem arguments_lie_between_commas_nested :
    let tokens : List Token :=
      [⟨.leftParen, 0, [], ['(']⟩, ⟨.comma, 1, [], [',']⟩,
        ⟨.leftParen, 2, [], ['(']⟩, ⟨.now, 3, [], "@now"⟩,
        ⟨.comma, 7, [], [',']⟩, ⟨.rightParen, 8, [], [')']⟩,
        ⟨.rightParen, 9, [], [')']⟩, ⟨.rightParen, 10, [], [')']⟩]
    let arguments : List (List Token) := [[], (tokens.drop 2).take 4]
    arguments? (tokens.drop 1) = some (arguments, tokens.drop 7) ∧
      ∃ close commas, IsOutermost tokens 1 .rightParen close ∧
        (∀ place < close, ¬IsOutermost tokens 1 .rightParen place) ∧
        tokens.drop 7 = tokens.drop (close + 1) ∧
        AreArguments tokens 1 close commas arguments := by
  intro tokens arguments
  have found : arguments? (tokens.drop 1) =
      some (arguments, tokens.drop 7) := by decide +kernel
  exact ⟨found, (arguments_lie_between_commas tokens 1).2 _ _ found⟩

end Formula
end CellPreview
