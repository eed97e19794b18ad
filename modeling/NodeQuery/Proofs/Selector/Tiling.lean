import NodeQuery.Proofs.Selector.Closing
import NodeQuery.Proofs.Selector.Viability

/-!
# Tilings

A tiling lays stretches of bytes over a text, one behind the other and without gaps, and says of
each stretch which kind of lexeme it is.  If no two blanks and no two names are neighbours, a text
has at most one tiling, and its tokens are that tiling.  A text without tokens has none; up to the
place of the error, the text has tokens.
-/

namespace NodeQuery.Selector

open Lexeme (rowText)

/-! ## Texts of lexemes -/

/-- The text is an opener, a body and the closer that closes the first opener. -/
def Delimiters.Wraps (pair : Delimiters) (text : List Char) : Prop :=
  ∃ body, text = pair.opener :: (body ++ [pair.closer]) ∧
    pair.Matches (body ++ [pair.closer]) body []

theorem Delimiters.encloses_iff {pair : Delimiters} {body : String} :
    pair.Encloses body ↔ pair.Matches (body.toList ++ [pair.closer]) body.toList [] :=
  split?_eq_some_iff

namespace Lexeme

/-- The texts of the lexemes of a kind. -/
def Kind.Fits : Kind → (text : List Char) → Prop
  | .blank, text => IsBlankRun (String.ofList text)
  | .comma, text => text = [',']
  | .star, text => text = ['*']
  | .dot, text => text = ['.']
  | .hash, text => text = ['#']
  | .plus, text => text = ['+']
  | .greater, text => text = ['>']
  | .tilde, text => text = ['~']
  | .colon, text => text = [':']
  | .name, text => IsName (String.ofList text)
  | .predicate, text => Delimiters.brackets.Wraps text
  | .arguments, text => Delimiters.parentheses.Wraps text

/-- Lexemes of the two kinds stay two if they are written next to each other. -/
def Kind.Apart (left right : Kind) : Prop := ¬(left = right ∧ (left = .blank ∨ left = .name))

theorem kind_apart_iff {left right : Lexeme} :
    left.kind.Apart right.kind ↔ left.Apart right := by
  cases left <;> cases right <;> simp [Kind.Apart, Apart, kind]

theorem WellFormed.fits {lexeme : Lexeme} (wellFormed : lexeme.WellFormed) :
    lexeme.kind.Fits lexeme.text.toList := by
  cases lexeme with
  | blank text =>
      change IsBlankRun (String.ofList text.toList)
      rwa [String.ofList_toList]
  | name text =>
      change IsName (String.ofList text.toList)
      rwa [String.ofList_toList]
  | predicate body | arguments body =>
      refine ⟨body.toList, ?_, Delimiters.encloses_iff.mp wellFormed⟩
      simp [Lexeme.text, Delimiters.brackets, Delimiters.parentheses]
  | _ => rfl

theorem Kind.Fits.exists_lexeme {kind : Kind} {text : List Char} (fits : kind.Fits text) :
    ∃ lexeme : Lexeme, lexeme.kind = kind ∧ lexeme.text.toList = text ∧ lexeme.WellFormed := by
  cases kind with
  | blank => exact ⟨.blank (String.ofList text), rfl, String.toList_ofList, fits⟩
  | name => exact ⟨.name (String.ofList text), rfl, String.toList_ofList, fits⟩
  | predicate =>
      rcases fits with ⟨body, rfl, closes⟩
      refine ⟨.predicate (String.ofList body), rfl, ?_, ?_⟩
      · simp [Lexeme.text, Delimiters.brackets]
      · exact Delimiters.encloses_iff.mpr (by simpa using closes)
  | arguments =>
      rcases fits with ⟨body, rfl, closes⟩
      refine ⟨.arguments (String.ofList body), rfl, ?_, ?_⟩
      · simp [Lexeme.text, Delimiters.parentheses]
      · exact Delimiters.encloses_iff.mpr (by simpa using closes)
  | comma => exact ⟨.comma, rfl, fits.symm, trivial⟩
  | star => exact ⟨.star, rfl, fits.symm, trivial⟩
  | dot => exact ⟨.dot, rfl, fits.symm, trivial⟩
  | hash => exact ⟨.hash, rfl, fits.symm, trivial⟩
  | plus => exact ⟨.plus, rfl, fits.symm, trivial⟩
  | greater => exact ⟨.greater, rfl, fits.symm, trivial⟩
  | tilde => exact ⟨.tilde, rfl, fits.symm, trivial⟩
  | colon => exact ⟨.colon, rfl, fits.symm, trivial⟩

end Lexeme

/-! ## Tiles -/

/-- A stretch of bytes of a text and the kind of lexeme that it is taken for. -/
structure Tile where
  kind : Lexeme.Kind
  span : Span
  deriving Repr, DecidableEq

/-- The tile of a token. -/
def Token.tile (token : Token) : Tile := ⟨token.lexeme.kind, token.span⟩

/-- The source has the text at the bytes of the span. -/
def IsAt (source : String) (span : Span) (text : List Char) : Prop :=
  ∃ front behind, source.toList = front ++ text ++ behind ∧ Utf8.size front = span.start ∧
    Utf8.size (front ++ text) = span.stop

/-- The tiles cover the bytes from `start` to `stop`, one behind the other. -/
def Tile.Cover (start : Nat) : List Tile → (stop : Nat) → Prop
  | [], stop => start = stop
  | tile :: tiles, stop => tile.span.start = start ∧ Cover tile.span.stop tiles stop

/-- The tiles are not empty and cover the source without gaps.  The text at each is one of its kind,
and no two blanks and no two names are neighbours. -/
structure IsTiling (source : String) (tiles : List Tile) : Prop where
  nonempty : ∀ tile ∈ tiles, tile.span.start < tile.span.stop
  covers : Tile.Cover 0 tiles source.utf8ByteSize
  fits : ∀ tile ∈ tiles, ∃ text, IsAt source tile.span text ∧ tile.kind.Fits text
  apart : tiles.IsChain fun left right => left.kind.Apart right.kind

/-- The tiles of a row of lexemes that stands at an offset. -/
def Tile.row (start : Nat) : List Lexeme → List Tile
  | [] => []
  | lexeme :: lexemes =>
      let stop := start + Utf8.size lexeme.text.toList
      ⟨lexeme.kind, ⟨start, stop⟩⟩ :: row stop lexemes

theorem Token.tiles_of_listFrom {place : Place} {chars : List Char} {tokens : List Token}
    (found : Token.listFrom place chars = .ok tokens) :
    tokens.map Token.tile = Tile.row place.offset (tokens.map Token.lexeme) := by
  fun_induction Token.listFrom place chars generalizing tokens with
  | case1 =>
      cases found
      rfl
  | case2 => cases found
  | case3 => cases found
  | case4 place char chars lexeme rest read behind others listed =>
      rename_i ih
      cases found
      have bytes : behind.offset = place.offset + Utf8.size lexeme.text.toList :=
        Place.offset_after place lexeme.text.toList
      rw [List.map_cons, ih listed, List.map_cons, Tile.row, bytes]
      simp only [tile, span]

namespace Tile

theorem map_kind_row (start : Nat) (lexemes : List Lexeme) :
    (row start lexemes).map Tile.kind = lexemes.map Lexeme.kind := by
  induction lexemes generalizing start with
  | nil => rfl
  | cons lexeme lexemes ih => rw [row, List.map_cons, List.map_cons, ih]

/-- The tiles of a row keep apart what the row keeps apart. -/
theorem isChain_row (start : Nat) (lexemes : List Lexeme) :
    ((row start lexemes).IsChain fun left right => left.kind.Apart right.kind) ↔
      lexemes.IsChain Lexeme.Apart := by
  rw [← List.isChain_map Tile.kind, map_kind_row, List.isChain_map]
  simp only [Lexeme.kind_apart_iff]

theorem cover_row (start : Nat) (lexemes : List Lexeme) :
    Cover start (row start lexemes) (start + Utf8.size (rowText lexemes)) := by
  induction lexemes generalizing start with
  | nil => rfl
  | cons lexeme lexemes ih =>
      refine ⟨rfl, ?_⟩
      rw [Lexeme.rowText_cons, Utf8.size_append, ← Nat.add_assoc]
      exact ih _

/-- Each tile of a row stands at the text of its lexeme. -/
theorem exists_of_mem_row {source : String} {front behind : List Char} {lexemes : List Lexeme}
    (whole : source.toList = front ++ rowText lexemes ++ behind) {tile : Tile}
    (member : tile ∈ row (Utf8.size front) lexemes) :
    ∃ lexeme ∈ lexemes, tile.kind = lexeme.kind ∧
      IsAt source tile.span lexeme.text.toList := by
  induction lexemes generalizing front with
  | nil => cases member
  | cons lexeme lexemes ih =>
      rw [Lexeme.rowText_cons] at whole
      rcases List.mem_cons.mp member with rfl | later
      · refine ⟨lexeme, List.mem_cons_self, rfl, front, rowText lexemes ++ behind, ?_, rfl, ?_⟩
        · simp [whole]
        · rw [Utf8.size_append]
      · rw [← Utf8.size_append] at later
        have shifted : source.toList =
            front ++ lexeme.text.toList ++ rowText lexemes ++ behind := by
          simp [whole]
        obtain ⟨other, found, same, stands⟩ := ih shifted later
        exact ⟨other, List.mem_cons_of_mem _ found, same, stands⟩

/-- Tiles that cover the rest of a text are those of a row of lexemes. -/
theorem exists_row_of_cover {source : String} {front rest : List Char} {tiles : List Tile}
    (whole : source.toList = front ++ rest)
    (covers : Cover (Utf8.size front) tiles source.utf8ByteSize)
    (fits : ∀ tile ∈ tiles, ∃ text, IsAt source tile.span text ∧ tile.kind.Fits text) :
    ∃ lexemes, row (Utf8.size front) lexemes = tiles ∧ rowText lexemes = rest ∧
      ∀ lexeme ∈ lexemes, lexeme.WellFormed := by
  induction tiles generalizing front rest with
  | nil =>
      have ended : front ++ rest = source.toList ++ [] := by rw [whole, List.append_nil]
      have sizes : Utf8.size front = Utf8.size source.toList := by
        rw [Utf8.size_toList]
        exact covers
      obtain ⟨-, rfl⟩ := Utf8.append_inj ended sizes
      exact ⟨[], rfl, rfl, by simp⟩
  | cons tile tiles ih =>
      obtain ⟨starts, covers⟩ := covers
      obtain ⟨⟨text, ⟨other, behind, stands, start, stop⟩, fit⟩, later⟩ :=
        List.forall_mem_cons.mp fits
      have texts : front ++ rest = other ++ (text ++ behind) := by
        rw [← whole, stands, List.append_assoc]
      obtain ⟨rfl, rfl⟩ := Utf8.append_inj texts (starts.symm.trans start.symm)
      obtain ⟨lexeme, same, written, wellFormed⟩ := fit.exists_lexeme
      rw [← stop] at covers
      obtain ⟨lexemes, rows, text, all⟩ := ih stands covers later
      refine ⟨lexeme :: lexemes, ?_, ?_, List.forall_mem_cons.mpr ⟨wellFormed, all⟩⟩
      · rw [row, written, ← Utf8.size_append, rows, same, stop, start]
      · rw [Lexeme.rowText_cons, written, text]

end Tile

theorem isTiling_iff {source : String} {tiles : List Tile} :
    IsTiling source tiles ↔
      ∃ lexemes, Cuts source.toList lexemes ∧ Tile.row 0 lexemes = tiles := by
  constructor
  · rintro ⟨-, covers, fits, apart⟩
    obtain ⟨lexemes, rfl, text, wellFormed⟩ :=
      Tile.exists_row_of_cover (List.nil_append _).symm covers fits
    exact ⟨lexemes, ⟨wellFormed, (Tile.isChain_row 0 lexemes).mp apart, text⟩, rfl⟩
  · rintro ⟨lexemes, cuts, rfl⟩
    have whole : source.toList = [] ++ rowText lexemes ++ [] := by simp [cuts.text]
    refine ⟨?_, ?_, ?_, (Tile.isChain_row 0 lexemes).mpr cuts.apart⟩
    · intro tile member
      obtain ⟨lexeme, found, -, front, behind, -, start, stop⟩ :=
        Tile.exists_of_mem_row whole member
      obtain ⟨char, rest, text⟩ := Lexeme.text_eq_cons (cuts.wellFormed lexeme found)
      have positive := char.utf8Size_pos
      rw [← start, ← stop, Utf8.size_append, text, Utf8.size_cons]
      omega
    · have covers := Tile.cover_row 0 lexemes
      rwa [cuts.text, Nat.zero_add, Utf8.size_toList] at covers
    · intro tile member
      obtain ⟨lexeme, found, same, stands⟩ := Tile.exists_of_mem_row whole member
      exact ⟨_, stands, same ▸ (cuts.wellFormed lexeme found).fits⟩

/-! ## Texts without tokens -/

/-- A lexeme that ends in front of a text ends in front of each beginning of the text. -/
theorem Lexeme.EndsBefore.of_append {lexeme : Lexeme} {front behind : List Char}
    (ends : lexeme.EndsBefore (front ++ behind).head?) : lexeme.EndsBefore front.head? := by
  cases front with
  | nil => exact lexeme.endsBefore_none
  | cons char front => exact ends

/-- The lexemes that are read in front of a fault are the cut of their text. -/
theorem Token.exists_cuts_of_error {place : Place} {chars : List Char} {error : Token.Error}
    (failed : Token.listFrom place chars = .error error) :
    ∃ lexemes rest, rowText lexemes ++ rest = chars ∧ Cuts (rowText lexemes) lexemes ∧
      error.place = place.after (rowText lexemes) := by
  fun_induction Token.listFrom place chars with
  | case1 => cases failed
  | case2 place char chars fault read =>
      cases failed
      exact ⟨[], char :: chars, rfl, .nil, rfl⟩
  | case3 place char chars lexeme rest read behind other listed ih =>
      cases failed
      obtain ⟨lexemes, left, rfl, cuts, stands⟩ := ih listed
      obtain ⟨wellFormed, ends⟩ := Lexeme.spec_of_read read
      refine ⟨lexeme :: lexemes, left, ?_, ?_, ?_⟩
      · rw [← Lexeme.text_append_of_read read, Lexeme.rowText_cons, List.append_assoc]
      · exact Cuts.cons_iff.mpr ⟨wellFormed, _, rfl, ends.of_append, cuts⟩
      · rw [stands, Lexeme.rowText_cons, Place.after_append]
  | case4 => cases failed

/-- The tokens of a text are its tiling.  They stand at the texts of their lexemes, which make up
the whole text, and every tiling of the text consists of the tiles of its tokens.  If there are no
tokens, there is no tiling, but the text in front of the error has tokens. -/
theorem tokens_are_the_tiling (source : String) :
    (∀ tokens, Token.list source = .ok tokens →
      IsTiling source (tokens.map Token.tile) ∧
        (∀ token ∈ tokens, IsAt source token.span token.lexeme.text.toList) ∧
        String.join (tokens.map fun token => token.lexeme.text) = source) ∧
      (∀ tiles, IsTiling source tiles →
        ∃ tokens, Token.list source = .ok tokens ∧ tokens.map Token.tile = tiles) ∧
      ∀ error, Token.list source = .error error →
        (∀ tiles, ¬IsTiling source tiles) ∧
          ∃ front, IsFront source error.place.offset front ∧
            ∃ tokens, Token.list front = .ok tokens := by
  have tiled (tiles : List Tile) (tiling : IsTiling source tiles) :
      ∃ tokens, Token.list source = .ok tokens ∧ tokens.map Token.tile = tiles := by
    obtain ⟨lexemes, cuts, rfl⟩ := isTiling_iff.mp tiling
    obtain ⟨tokens, listed, rfl⟩ := Token.listFrom_of_cuts cuts .origin
    exact ⟨tokens, listed, Token.tiles_of_listFrom listed⟩
  refine ⟨?_, tiled, ?_⟩
  · intro tokens listed
    have cuts := Token.cuts_of_listFrom listed
    refine ⟨isTiling_iff.mpr ⟨_, cuts, (Token.tiles_of_listFrom listed).symm⟩, ?_, ?_⟩
    · intro token member
      obtain ⟨before, behind, split⟩ := List.append_of_mem member
      obtain ⟨whole, stands, ends⟩ := Token.split_of_listFrom listed split
      refine ⟨_, _, whole, ?_, ?_⟩
      · change _ = token.place.offset
        rw [stands, Place.after_origin]
      · change _ = token.stop
        rw [ends, stands, ← Place.after_append, Place.after_origin]
    · apply String.toList_injective
      rw [String.toList_join, List.flatMap_map, ← cuts.text, rowText, List.flatMap_map]
  · intro error failed
    constructor
    · intro tiles tiling
      obtain ⟨tokens, listed, -⟩ := tiled tiles tiling
      rw [failed] at listed
      cases listed
    · obtain ⟨lexemes, rest, whole, cuts, stands⟩ := Token.exists_cuts_of_error failed
      refine ⟨String.ofList (rowText lexemes), stands ▸ isFront_ofList whole.symm, ?_⟩
      rw [← String.toList_ofList (l := rowText lexemes)] at cuts
      obtain ⟨tokens, listed, -⟩ := Token.listFrom_of_cuts cuts .origin
      exact ⟨tokens, listed⟩

/-- A bracket in a literal does not end the predicate, and one in an argument list is no delimiter.
The text in front of an opener without a closer has tokens. -/
theorem tokens_are_the_tiling_of_bracketed_literal :
    let tiles : List Tile := [⟨.name, ⟨0, 2⟩⟩, ⟨.blank, ⟨2, 4⟩⟩, ⟨.predicate, ⟨4, 9⟩⟩,
      ⟨.colon, ⟨9, 10⟩⟩, ⟨.name, ⟨10, 11⟩⟩, ⟨.arguments, ⟨11, 19⟩⟩]
    IsTiling "ab\t [']']:f([é()\n)" tiles ∧
      (∀ other, IsTiling "ab\t [']']:f([é()\n)" other → other = tiles) ∧
      (∀ other, ¬IsTiling "a> [(']" other) ∧
      ∃ tokens, Token.list "a> " = .ok tokens := by
  intro tiles
  have listed : Token.list "ab\t [']']:f([é()\n)" =
      .ok [⟨.name "ab", ⟨0, 1, 1⟩, 2⟩, ⟨.blank "\t ", ⟨2, 1, 3⟩, 4⟩,
        ⟨.predicate "']'", ⟨4, 1, 5⟩, 9⟩, ⟨.colon, ⟨9, 1, 10⟩, 10⟩, ⟨.name "f", ⟨10, 1, 11⟩, 11⟩,
        ⟨.arguments "[é()\n", ⟨11, 1, 12⟩, 19⟩] := by decide +kernel
  have unclosed : Token.list "a> [(']" = .error ⟨.unclosed .brackets, ⟨3, 1, 4⟩, 7⟩ := by
    decide +kernel
  obtain ⟨tiled, unique, -⟩ := tokens_are_the_tiling "ab\t [']']:f([é()\n)"
  obtain ⟨-, -, failed⟩ := tokens_are_the_tiling "a> [(']"
  obtain ⟨none, front, isFront, found⟩ := failed _ unclosed
  have frontIs : front = "a> " := isFront.unique ⟨⟨"[(']", by decide⟩, by decide⟩
  refine ⟨(tiled _ listed).1, ?_, none, frontIs ▸ found⟩
  intro other tiling
  obtain ⟨tokens, again, same⟩ := unique other tiling
  rw [listed] at again
  cases again
  exact same.symm

end NodeQuery.Selector
