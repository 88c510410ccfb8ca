import LogIntake.Proofs.Template.Language
import Mathlib.Data.List.SplitBy
import Mathlib.Data.List.TakeWhile

/-!
# Which cut of a line gives the captures

* `Site`: a place of a line that takes one piece, be it of the template or of its timestamp pattern.
* `Template.Token.sites`: the sites of a token. A timestamp has those of its pattern.
* `Template.IsCutInto`: a line cut into pieces, one for each site.
* `GoesBefore`: the first two pieces that differ in length are as the site prefers.
* `Template.Token.shape_eq`: the shape of a token, site by site.
* **`captures?_preferred`**: the captures come from the one cut that goes before all others.
-/

namespace LogIntake

/-! ## Sites -/

/-- A place of a line that takes one piece: a token of the template, or a run of letters, a run of
blanks or a stretch of fixed text of the timestamp pattern. -/
inductive Site where
  | field (f : Field)
  | wildcard
  | letters
  | gap
  | literal (text : List Char)
deriving DecidableEq, Repr

namespace Site

/-- The pieces that a site takes. A timestamp that is a site has no pattern. -/
def Stands : Site → List Char → Prop
  | .field f, piece => f.Stands none piece
  | .wildcard, piece => '\n' ∉ piece
  | .letters, piece => piece ≠ [] ∧ IsSolidText piece
  | .gap, piece => IsGapText piece
  | .literal text, piece => piece = text

/-- The site takes as little as it can. -/
def IsLazy : Site → Prop
  | .wildcard => True
  | .field .thread | .field .ndc | .field .method | .field (.prop _) => True
  | .field .logger | .field .level | .field .className | .field .file | .field .line => True
  | .field .timestamp => True
  | _ => False

/-- The site takes as much as it can. -/
def IsGreedy : Site → Prop
  | .field .message | .field .relativeTime => True
  | .gap | .letters => True
  | _ => False

end Site

/-- Both characters are blanks or tabs, or neither of them is. -/
def Timestamp.areAlike (c d : Char) : Bool :=
  Text.isGap c == Text.isGap d

/-- A fixed text of a timestamp pattern: its stretches of blanks and tabs, and those between them. -/
def Timestamp.Token.sites : Timestamp.Token → List Site
  | .letters _ _ => [.letters]
  | .literal text => (text.splitBy areAlike).map fun stretch =>
      if stretch.all Text.isGap then .gap else .literal stretch

/-- The sites of a token. A timestamp with a pattern has those of the pattern, and is a relative time
where the pattern says so. -/
def Template.Token.sites (timestamp : Option TimestampParser) : Template.Token → List Site
  | .field .timestamp =>
    match timestamp with
    | none => [.field .timestamp]
    | some (.absolute format) => format.tokens.flatMap Timestamp.Token.sites
    | some (.relative _) => [.field .relativeTime]
  | .field f => [.field f]
  | .wildcard => [.wildcard]
  | .gap => [.gap]
  | .literal text => [.literal text]

/-- A line cut into pieces, token by token one for each of its sites. -/
structure Template.IsCutInto (template : Template) (timestamp : Option TimestampParser)
    (line : String) (cut : List (List (List Char))) : Prop where
  whole : line.toList = cut.flatten.flatten
  stands : List.Forall₂ (fun token pieces => List.Forall₂ Site.Stands (token.sites timestamp) pieces)
    template.tokens cut

/-- At the first site whose pieces differ in length, the first cut has the shorter one if the site is
lazy, and the longer one if it is greedy. -/
def GoesBefore (sites : List Site) (pieces others : List (List Char)) : Prop :=
  ∃ (k : Nat) (site : Site) (piece other : List Char),
    sites[k]? = some site ∧ pieces[k]? = some piece ∧ others[k]? = some other ∧
    (pieces.take k).map List.length = (others.take k).map List.length ∧
    (site.IsLazy ∧ piece.length < other.length ∨ site.IsGreedy ∧ other.length < piece.length)

/-! ## The shape, site by site -/

/-- What a site contributes to the shape of a line. -/
def Site.piece : Site → Piece
  | .field .message => .run .anyInLine false .longest
  | .field .thread | .field .ndc | .field .method | .field (.prop _) | .field .timestamp =>
    .run .anyInLine false .shortest
  | .field .relativeTime => .run .digit true .longest
  | .field .logger | .field .level | .field .className | .field .file | .field .line =>
    .run .solid false .shortest
  | .wildcard => .run .anyInLine false .shortest
  | .letters => .run .solid true .longest
  | .gap => .run .gap true .longest
  | .literal text => .literal text

variable {sites : List Site} {pieces others : List (List Char)} {s : List Char}

theorem Site.fits_piece_iff (site : Site) (part : List Char) :
    site.piece.Fits part ↔ site.Stands part := by
  cases site with
  | wildcard => exact fits_inLine_iff
  | gap => exact fits_nonempty_iff
  | literal text => exact Iff.rfl
  | letters =>
    refine fits_nonempty_iff.trans (and_congr_right fun _ => ?_)
    simp [RunKind.accepts, IsSolidText]
  | field f =>
    cases f with
    | message | thread | ndc | method | prop | timestamp => exact fits_inLine_iff
    | logger | level | className | file | line => exact fits_solid_iff
    | relativeTime => exact fits_nonempty_iff

theorem Site.prefers_piece (site : Site) {m n : Nat} (h : site.piece.Prefers m n) :
    site.IsLazy ∧ m < n ∨ site.IsGreedy ∧ n < m := by
  cases site with
  | wildcard => exact .inl ⟨trivial, h⟩
  | gap | letters => exact .inr ⟨trivial, h⟩
  | literal text => exact absurd h id
  | field f =>
    cases f with
    | thread | ndc | method | prop | timestamp | logger | level | className | file | line =>
      exact .inl ⟨trivial, h⟩
    | message | relativeTime => exact .inr ⟨trivial, h⟩

theorem isCut_sites_iff : IsCut (sites.map Site.piece) s pieces ↔
    s = pieces.flatten ∧ List.Forall₂ Site.Stands sites pieces := by
  rw [isCut_iff, List.forall₂_map_left_iff]
  simp only [Site.fits_piece_iff]

/-- Preference along the shape is preference site by site. -/
theorem goesBefore_of_prefers (h : Prefers (sites.map Site.piece) pieces others) :
    GoesBefore sites pieces others := by
  induction sites generalizing pieces others with
  | nil => cases h
  | cons site sites ih =>
    cases h with
    | @here _ _ a b as bs hprefers =>
      exact ⟨0, site, a, b, rfl, rfl, rfl, rfl, site.prefers_piece hprefers⟩
    | @later _ _ a b as bs hlength hlater =>
      obtain ⟨k, other, piece, piece', hsite, hpiece, hpiece', hsame, hfirst⟩ := ih hlater
      refine ⟨k + 1, other, piece, piece', hsite, hpiece, hpiece', ?_, hfirst⟩
      rw [List.take_succ_cons, List.take_succ_cons, List.map_cons, List.map_cons, hlength, hsame]

namespace Timestamp

open Text

theorem areAlike_of_gap {c : Char} (h : isGap c = true) : areAlike c = isGap := by
  funext d
  rw [areAlike, h, Bool.true_beq]

theorem areAlike_of_not_gap {c : Char} (h : isGap c = false) : areAlike c = fun d => !isGap d := by
  funext d
  rw [areAlike, h, Bool.false_beq]

theorem splitBy_areAlike_cons (c : Char) (text : List Char) :
    (c :: text).splitBy areAlike =
      (c :: text.takeWhile (areAlike c)) :: (text.dropWhile (areAlike c)).splitBy areAlike := by
  have hsplit : c :: text = (c :: text.takeWhile (areAlike c)) ++ text.dropWhile (areAlike c) := by
    rw [List.cons_append, List.takeWhile_append_dropWhile]
  have halike : ∀ d ∈ c :: text.takeWhile (areAlike c), isGap d = isGap c := by
    intro d hd
    rcases List.mem_cons.mp hd with rfl | hd
    · rfl
    · have hsame : areAlike c d = true := List.mem_takeWhile_imp hd
      exact (beq_iff_eq.mp hsame).symm
  have hchain : (c :: text.takeWhile (areAlike c)).IsChain fun c d => areAlike c d = true := by
    refine (List.pairwise_of_forall_mem_list fun d hd e he => ?_).isChain
    exact beq_iff_eq.mpr ((halike d hd).trans (halike e he).symm)
  have hends : ∀ d ∈ (c :: text.takeWhile (areAlike c)).getLast?,
      ∀ e ∈ (text.dropWhile (areAlike c)).head?, areAlike d e = false := by
    intro d hd e he
    have hstop := List.head?_dropWhile_not (areAlike c) text
    rw [Option.mem_def.mp he] at hstop
    rwa [areAlike, halike d (List.mem_of_mem_getLast? hd)]
  conv_lhs => rw [hsplit]
  rw [List.splitBy_append hends, List.splitBy_of_isChain (List.cons_ne_nil _ _) hchain,
    List.singleton_append]

/-- Characters in a row that are no blanks or tabs stand together. -/
theorem foldr_consShape_solid {c : Char} (h : isGap c = false) (text : List Char) :
    (c :: text).foldr consShape [] = .literal (c :: text.takeWhile fun d => !isGap d) ::
      (text.dropWhile fun d => !isGap d).foldr consShape [] := by
  have hc : ¬ isGap c = true := by
    rw [h]
    decide
  induction text generalizing c with
  | nil => simp [consShape, h]
  | cons d text ih =>
    rw [List.foldr_cons]
    cases hd : isGap d with
    | true => simp [foldr_consShape_gap hd, consShape, h, hd]
    | false => simp [ih hd (by simp [hd]), consShape, h, hd]

/-- The shape of a fixed text, stretch by stretch. -/
theorem foldr_consShape_eq (text : List Char) : text.foldr consShape [] =
    (text.splitBy areAlike).map fun stretch =>
      Site.piece (if stretch.all isGap then .gap else .literal stretch) := by
  induction hn : text.length using Nat.strongRecOn generalizing text with
  | ind n ih =>
    subst hn
    cases text with
    | nil => rfl
    | cons c text =>
      have hlength := (List.dropWhile_sublist (areAlike c) (l := text)).length_le
      rw [splitBy_areAlike_cons, List.map_cons, ← ih _ (Nat.lt_succ_of_le hlength) _ rfl]
      cases hc : isGap c with
      | true =>
        rw [foldr_consShape_gap hc, areAlike_of_gap hc]
        have hall : (c :: text.takeWhile isGap).all isGap = true := by
          rw [List.all_cons, hc, List.all_takeWhile]
          rfl
        rw [if_pos hall]
        rfl
      | false =>
        rw [foldr_consShape_solid hc, areAlike_of_not_gap hc, List.all_cons, hc]
        rfl

theorem Token.shape_eq (token : Token) : token.shape = token.sites.map Site.piece := by
  cases token with
  | letters letter count => rfl
  | literal text =>
    rw [Token.shape, foldr_consShape_eq, Token.sites, List.map_map]
    rfl

end Timestamp

namespace Template

variable {timestamp : Option TimestampParser} {template : Template}

/-- The shape of a token, site by site. -/
theorem Token.shape_eq (token : Token) : token.shape (timestamp.map TimestampParser.shape) =
    (token.sites timestamp).map Site.piece := by
  cases token with
  | wildcard | gap | literal => rfl
  | field f =>
    cases f with
    | message | thread | ndc | method | prop | relativeTime | logger | level | className | file
    | line => rfl
    | timestamp =>
      cases timestamp with
      | none => rfl
      | some parser =>
        cases parser with
        | relative clock => rfl
        | absolute format =>
          change format.tokens.flatMap Timestamp.Token.shape =
            (format.tokens.flatMap Timestamp.Token.sites).map Site.piece
          rw [List.map_flatMap]
          exact List.flatMap_congr fun token _ => token.shape_eq

theorem shape_eq (h : template.timestampShape = timestamp.map TimestampParser.shape) :
    template.shape = (template.tokens.flatMap (Token.sites timestamp)).map Site.piece := by
  rw [shape, h, List.map_flatMap]
  exact List.flatMap_congr fun token _ => token.shape_eq

/-! ## The preferred cut -/

/-- A line cut at all sites is cut along the shape of the template. -/
theorem IsCutInto.isCut {line : String} {cut : List (List (List Char))}
    (h : template.IsCutInto timestamp line cut) :
    IsCut ((template.tokens.flatMap (Token.sites timestamp)).map Site.piece) line.toList cut.flatten := by
  refine isCut_sites_iff.mpr ⟨h.whole, ?_⟩
  rw [List.flatMap_def]
  exact List.rel_flatten (List.forall₂_map_left_iff.mpr h.stands)

theorem IsCutInto.map_length {line : String} {cut : List (List (List Char))}
    (h : template.IsCutInto timestamp line cut) :
    cut.map List.length = template.tokens.map fun token => (token.sites timestamp).length := by
  have hsame := h.stands.imp fun token pieces hpieces => hpieces.length_eq.symm
  rw [← List.forall₂_eq_eq_eq, List.forall₂_map_left_iff, List.forall₂_map_right_iff]
  exact hsame.flip

/-- A cut is known from its pieces in a row. -/
theorem IsCutInto.eq_of_flatten_eq {line : String} {cut other : List (List (List Char))}
    (h : template.IsCutInto timestamp line cut) (h' : template.IsCutInto timestamp line other)
    (hflatten : cut.flatten = other.flatten) : cut = other :=
  List.eq_iff_flatten_eq.mpr ⟨hflatten, h.map_length.trans h'.map_length.symm⟩

/-- **The captures of a line are the pieces of its preferred cut**: at the first site where another cut
has a piece of a different length, the preferred cut has the shorter one if the site is lazy, and the
longer one if it is greedy. -/
theorem captures?_preferred (timestamp : Option TimestampParser) {text : String}
    (h : compile text (timestamp.map TimestampParser.shape) = .ok template) {line : String}
    {captures : Captures} (hcaptures : template.captures? line = some captures) :
    ∃ cut, template.IsCutInto timestamp line cut ∧
      captures = captured template.tokens (cut.map List.flatten) ∧
      ∀ other, template.IsCutInto timestamp line other → other ≠ cut →
        GoesBefore (template.tokens.flatMap (Token.sites timestamp)) cut.flatten other.flatten := by
  obtain ⟨_, hshape, _⟩ := compile_ok h
  obtain ⟨parts, hparts, rfl⟩ := Option.map_eq_some_iff.mp hcaptures
  have hpreferred := template.shape.isPreferred_cut? line.toList
  rw [hparts] at hpreferred
  have hcutting := hpreferred.1
  rw [shape, hshape] at hcutting
  obtain ⟨cut, rfl, hcut, hcaptured⟩ := captureParts_cut hcutting
  have hmade : template.IsCutInto timestamp line cut := by
    refine ⟨?_, hcut.imp fun token pieces hpieces => ?_⟩
    · exact hcutting.flatten.symm
    · rw [Token.shape_eq] at hpieces
      exact (isCut_sites_iff.mp hpieces).2
  refine ⟨cut, hmade, by rw [hshape, hcaptured], fun other hother hne => ?_⟩
  rw [shape_eq hshape] at hpreferred
  rcases hpreferred.2 _ hother.isCut with heq | hprefers
  · exact absurd (hother.eq_of_flatten_eq hmade heq) hne
  · exact goesBefore_of_prefers hprefers

/-- The last run of letters reaches over a stroke into the message, as far as the last stroke. -/
theorem captures?_preferred_greedyTimestamp :
    ∃ parser template, TimestampParser.compile "HH:mm" = .ok parser ∧
      compile "TIMESTAMP|MESSAGE" (some parser.shape) = .ok template ∧
      ∃ cut, template.IsCutInto (some parser) "10:20|a|b" cut ∧
        captured template.tokens (cut.map List.flatten) =
          [(.timestamp, "10:20|a"), (.message, "b")] ∧
        ∀ other, template.IsCutInto (some parser) "10:20|a|b" other → other ≠ cut →
          GoesBefore [.letters, .literal [':'], .letters, .literal ['|'], .field .message]
            cut.flatten other.flatten := by
  let parser : TimestampParser := .absolute
    ⟨"HH:mm", [.letters 'H' 2, .literal [':'], .letters 'm' 2],
      [.read .hour, .expect [':'], .read .minute]⟩
  let template : Template := ⟨"TIMESTAMP|MESSAGE",
    [.field .timestamp, .literal ['|'], .field .message], some parser.shape⟩
  have h : compile "TIMESTAMP|MESSAGE" (some parser.shape) = .ok template := rfl
  have hcaptures : template.captures? "10:20|a|b" =
      some [(.timestamp, "10:20|a"), (.message, "b")] := by decide
  obtain ⟨cut, hcut, hcaptured, hbefore⟩ := captures?_preferred (some parser) h hcaptures
  exact ⟨parser, template, rfl, h, cut, hcut, hcaptured.symm, hbefore⟩

end Template

end LogIntake
