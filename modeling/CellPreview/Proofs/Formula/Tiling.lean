import CellPreview.Proofs.Formula.Respacing
import CellPreview.Proofs.Text.Slice

/-!
# Tokens as tiles of a formula

The tokens of a formula are given by their offsets, and cover it from left to
right, except for the blanks. What stands between the offsets of a token is
spelled as its kind says, and it is enough to know the token: it is read as the
same token when nothing else is there.
-/

namespace CellPreview

namespace Text

/-- A byte offset at which a character of a text starts, or at which the text
ends. -/
def IsBoundary (text : Text) (offset : Nat) : Prop :=
  ∃ before after, text = before ++ after ∧ byteLength before = offset

/-- Two byte offsets with nothing but blanks between the first and the
second. -/
def IsBlankBetween (text : Text) (start stop : Nat) : Prop :=
  start ≤ stop ∧ ∀ char ∈ text.slice start stop, isBlank char

theorem isBlankBetween_append
    {before gap : Text}
    (gapBlank : ∀ char ∈ gap, isBlank char)
    (after : Text) :
    IsBlankBetween (before ++ (gap ++ after)) (byteLength before)
      (byteLength before + byteLength gap) := by
  rw [IsBlankBetween, slice_append rfl rfl]
  exact ⟨Nat.le_add_right _ _, gapBlank⟩

end Text

namespace Formula

variable {body : Text}

/-- A token that is what stands between its offsets in a formula. -/
structure Token.IsTile (body : Text) (token : Token) : Prop where
  start_lt_stop : token.start < token.stop
  stop_le : token.stop ≤ body.byteLength
  start_isBoundary : body.IsBoundary token.start
  stop_isBoundary : body.IsBoundary token.stop
  spelled : token.kind.Spelled (body.slice token.start token.stop)
  /-- The token is read again when nothing else is there. -/
  tokenize_slice :
    tokenize (body.slice token.start token.stop) =
      .ok [⟨token.kind, 0, [], body.slice token.start token.stop⟩]

/-- Tokens that cover a formula from an offset on, with nothing but blanks
before, between and behind them. -/
inductive Tiles (body : Text) : Nat -> List Token -> Prop
  | blank {offset : Nat} :
      body.IsBlankBetween offset body.byteLength -> Tiles body offset []
  | token {offset : Nat} {token : Token} {others : List Token} :
      body.IsBlankBetween offset token.start ->
      token.IsTile body ->
      Tiles body token.stop others ->
      Tiles body offset (token :: others)

/-- A token is the only one in its own characters. -/
theorem Token.StandsAlone.tokenize_lexeme
    {token : Token}
    (standsAlone : token.StandsAlone) :
    tokenize token.lexeme = .ok [⟨token.kind, 0, [], token.lexeme⟩] := by
  obtain ⟨first, used, lexeme, notBlank, found⟩ := standsAlone
  have scans := @Lexer.Scans.token 0 [] used first _ [] nofun notBlank found
    (.blank nofun)
  rw [tokenize, lexeme]
  rw [lexeme] at scans
  exact scans.scan_eq

/-- A token is a tile where its characters stand. -/
theorem Token.StandsAlone.isTile
    {token : Token}
    {before : Text}
    (standsAlone : token.StandsAlone)
    (spelled : token.kind.Spelled token.lexeme)
    (starts : token.start = before.byteLength)
    (after : Text) :
    token.IsTile (before ++ (token.lexeme ++ after)) := by
  have stops : token.stop = before.byteLength + token.lexeme.byteLength := by
    rw [Token.stop, starts]
  have sliced := Text.slice_append starts stops after
  have nonempty : 0 < token.lexeme.byteLength := by
    obtain ⟨first, used, lexeme, _⟩ := standsAlone
    rw [lexeme, Text.byteLength_cons]
    exact Nat.add_pos_left first.utf8Size_pos _
  refine ⟨by omega, ?_, ⟨before, _, rfl, starts.symm⟩, ?_, ?_, ?_⟩
  · simp only [Text.byteLength_append]
    omega
  · refine ⟨before ++ token.lexeme, after, (List.append_assoc _ _ _).symm, ?_⟩
    rw [Text.byteLength_append, stops]
  · rwa [sliced]
  · rw [sliced]
    exact standsAlone.tokenize_lexeme

/-- A tile that starts with the sign of references is the reference by the name
behind the sign. -/
theorem Token.IsTile.kind_eq_referenceKind
    {token : Token}
    {name : Text}
    (isTile : token.IsTile body)
    (sliced : body.slice token.start token.stop = '@' :: name) :
    token.kind = Lexer.referenceKind name := by
  have alone := isTile.tokenize_slice
  rw [sliced] at alone
  obtain ⟨first, used, lexeme, _, found⟩ :=
    (Lexer.scan_eq_ok_iff.mp alone).standsAlone _ List.mem_cons_self
  cases lexeme
  have isReference :
      Lexer.piece? '@' name = some (Lexer.referencePiece name) := rfl
  rw [isReference, Option.some.injEq, Lexer.referencePiece,
    Lexer.Piece.mk.injEq, List.cons.injEq] at found
  obtain ⟨sameKind, ⟨_, sameName⟩, _⟩ := found
  rw [← sameKind, sameName]

/-- Scanned tokens cover the text behind what was scanned before. -/
theorem Lexer.Scans.tiles
    {offset : Nat}
    {text before : Text}
    {tokens : List Token}
    (scans : Scans offset text tokens)
    (length : before.byteLength = offset) :
    Tiles (before ++ text) offset tokens := by
  induction scans generalizing before with
  | @blank offset gap gapBlank =>
      subst length
      have areBlank := @Text.isBlankBetween_append before gap gapBlank []
      rw [List.append_nil, ← Text.byteLength_append] at areBlank
      exact .blank areBlank
  | @token offset gap rest first piece tokens gapBlank notBlank found following
      inductionHypothesis =>
      subst length
      have scans := Scans.token gapBlank notBlank found following
      have covers := piece?_covers found
      have starts : before.byteLength + gap.byteLength =
          (before ++ gap).byteLength := (Text.byteLength_append _ _).symm
      have isTile := (scans.standsAlone _ List.mem_cons_self).isTile
        (scans.spelled _ List.mem_cons_self) starts piece.rest
      have others := @inductionHypothesis (before ++ gap ++ piece.lexeme)
        (by simp only [Text.byteLength_append])
      rw [List.append_assoc, List.append_assoc, covers] at others
      rw [List.append_assoc, covers] at isTile
      exact .token (Text.isBlankBetween_append gapBlank _) isTile others

namespace Tiles

variable {offset : Nat} {tokens : List Token}

theorem offset_le_start
    (tiles : Tiles body offset tokens) :
    ∀ token ∈ tokens, offset ≤ token.start := by
  induction tiles with
  | blank => exact nofun
  | token areBlank isTile _ inductionHypothesis =>
      refine List.forall_mem_cons.mpr ⟨areBlank.1, fun later present => ?_⟩
      have stop_le := inductionHypothesis later present
      have start_lt := isTile.start_lt_stop
      have offset_le := areBlank.1
      omega

/-- Tokens that cover a formula follow each other. -/
theorem pairwise
    (tiles : Tiles body offset tokens) :
    tokens.Pairwise fun first second => first.stop ≤ second.start := by
  induction tiles with
  | blank => exact .nil
  | token _ _ others inductionHypothesis =>
      exact .cons others.offset_le_start inductionHypothesis

theorem isTile_of_mem
    (tiles : Tiles body offset tokens) :
    ∀ token ∈ tokens, token.IsTile body := by
  induction tiles with
  | blank => exact nofun
  | token _ isTile _ inductionHypothesis =>
      exact List.forall_mem_cons.mpr ⟨isTile, inductionHypothesis⟩

end Tiles

/-- The tokens of a formula cover all of it but blanks, in their order and
without overlap. Each of them is what stands between its offsets, and a sign of
references with a word behind it is the reference by this word. -/
theorem tokens_tile_source
    {tokens : List Token}
    (tokenized : tokenize body = .ok tokens) :
    Tiles body 0 tokens ∧
      (tokens.Pairwise fun first second => first.stop ≤ second.start) ∧
      ∀ token ∈ tokens, token.IsTile body ∧
        ∀ name, body.slice token.start token.stop = '@' :: name ->
          token.kind = Lexer.referenceKind name := by
  have tiles := @Lexer.Scans.tiles 0 body [] tokens
    (Lexer.scan_eq_ok_iff.mp tokenized) rfl
  refine ⟨tiles, tiles.pairwise, fun token present => ?_⟩
  have isTile := tiles.isTile_of_mem token present
  exact ⟨isTile, fun name => isTile.kind_eq_referenceKind⟩

/-- Characters of several bytes between quotes and as a blank. -/
theorem tokens_tile_source_mark :
    let body : Text := "\u00a0'✅'== @me"
    let tokens : List Token :=
      [⟨.text ['✅'], 2, ['\u00a0'], "'✅'"⟩, ⟨.equals, 7, [], "=="⟩,
        ⟨.reference ['m', 'e'], 10, [' '], "@me"⟩]
    tokenize body = .ok tokens ∧ Tiles body 0 tokens ∧
      body.slice 2 7 = "'✅'" ∧ body.slice 10 13 = "@me" := by
  intro body tokens
  have tokenized : tokenize body = .ok tokens := by decide +kernel
  exact ⟨tokenized, (tokens_tile_source tokenized).1, by decide +kernel,
    by decide +kernel⟩

end Formula
end CellPreview
