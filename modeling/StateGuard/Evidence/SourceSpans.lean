import StateGuard.Remediation.SymbolRegions
import StateGuard.Semantics.ContextBuilder

/-!
# The source of a symbol

The index says from which line of a file to which line a symbol goes, and three functions take
these lines from the file.  They do not agree on what a line is: the parser ends a line at a
newline only, as `source_span_fingerprint` does in the bytes, and the regions and the excerpts are
cut where `str.splitlines` ends a line.

A file holds a text in a charset that keeps newlines, perhaps after a byte order mark
(`SourceBytes`).  `sourceSpans_exact_iff` says when the three take the lines of the node.
-/

namespace StateGuard

namespace Evidence

open TextLines Terminators Python Remediation Semantics

/-! ## Three notions of line -/

/-- The lines that the parser counts. -/
def newlines : Terminators Char where
  ends c := c = '\n' || c = '\r'
  returns c := c = '\r'
  feeds c := c = '\n'
  ends_of_returns isReturn := by simp [of_decide_eq_true isReturn]
  ends_of_feeds isFeed := by simp [of_decide_eq_true isFeed]

/-- The lines of `str.splitlines`. -/
def breaks : Terminators Char where
  ends := isLineBreak
  returns c := c = '\r'
  feeds c := c = '\n'
  ends_of_returns isReturn := by
    rw [of_decide_eq_true isReturn]
    decide
  ends_of_feeds isFeed := by
    rw [of_decide_eq_true isFeed]
    decide

/-- The lines of `bytes.splitlines`. -/
def byteNewlines : Terminators UInt8 where
  ends b := b = 10 || b = 13
  returns b := b = 13
  feeds b := b = 10
  ends_of_returns isReturn := by simp [of_decide_eq_true isReturn]
  ends_of_feeds isFeed := by simp [of_decide_eq_true isFeed]

theorem breaks_finer : Finer newlines breaks where
  ends isEnd := by
    rcases (Bool.or_eq_true _ _).mp isEnd with isFeed | isReturn
    · exact breaks.ends_of_feeds isFeed
    · exact breaks.ends_of_returns isReturn
  returns := rfl
  feeds := rfl

/-- A character that ends a line for `str.splitlines`, and not for the parser. -/
abbrev Separator (c : Char) : Prop := Extra newlines breaks c

/-- The first lines of a text hold no separator, but perhaps the last character of the text. -/
def Unbroken (count : Nat) (text : List Char) : Prop :=
  ∀ c ∈ (newlines.firstLines count text).dropLast, ¬ Separator c

/-- The offsets of the lines from one to another. -/
def offsetsOf {α : Type} (t : Terminators α) (text : List α) (first last : Nat) : Nat × Nat :=
  ((t.firstLines (first - 1) text).length, (t.firstLines last text).length)

/-- The lines from one to another. -/
def linesBetween {α : Type} (t : Terminators α) (text : List α) (first last : Nat) : List α :=
  (((t.linesOf text).take last).drop (first - 1)).flatten

theorem linesBetween_eq {α : Type} {t : Terminators α} {text : List α} {first last : Nat}
    (ordered : first ≤ last) :
    linesBetween t text first last =
      (text.take (offsetsOf t text first last).2).drop (offsetsOf t text first last).1 := by
  rw [linesBetween, flatten_drop_linesOf ((Nat.sub_le _ _).trans ordered), offsetsOf,
    ← List.prefix_iff_eq_take.mp (firstLines_initial_text last text)]

theorem Unbroken.mono {before count : Nat} (le : before ≤ count) {text : List Char}
    (unbroken : Unbroken count text) : Unbroken before text := by
  obtain ⟨rest, whole⟩ := firstLines_initial (t := newlines) le text
  intro c listed
  refine unbroken c ?_
  rw [← whole]
  cases rest with
  | nil => rwa [List.append_nil]
  | cons d rest =>
    rw [List.dropLast_append_of_ne_nil (List.cons_ne_nil _ _)]
    exact List.mem_append_left _ (List.mem_of_mem_dropLast listed)

/-- Both notions of line have the same offsets when no line is cut. -/
theorem offsetsOf_eq_iff {text : List Char} {first last : Nat} (ordered : first ≤ last)
    (bounded : last ≤ (newlines.linesOf text).length) :
    offsetsOf breaks text first last = offsetsOf newlines text first last ↔
      Unbroken last text := by
  have same : ∀ {count}, count ≤ (newlines.linesOf text).length →
      ((breaks.firstLines count text).length = (newlines.firstLines count text).length ↔
        Unbroken count text) := by
    intro count within
    rw [Unbroken, ← breaks_finer.firstLines_eq_iff within]
    refine ⟨fun lengths => ?_, congrArg List.length⟩
    rw [List.prefix_iff_eq_take.mp (firstLines_initial_text (t := breaks) count text),
      List.prefix_iff_eq_take.mp (firstLines_initial_text (t := newlines) count text), lengths]
  have le := (Nat.sub_le first 1).trans ordered
  rw [offsetsOf, offsetsOf, Prod.mk.injEq, same bounded, same (le.trans bounded)]
  exact ⟨And.right, fun unbroken => ⟨unbroken.mono le, unbroken⟩⟩

/-! ## Files -/

/-- A charset in which the bytes of a newline stand for nothing else. -/
structure Charset where
  block : Char → List UInt8
  encodes : Encodes newlines byteNewlines block

/-- A file: a text in its charset, after a mark that is no part of the text. -/
structure SourceBytes where
  text : List Char
  charset : Charset
  mark : List UInt8
  unbroken : ∀ b ∈ mark, byteNewlines.ends b = false

def SourceBytes.raw (file : SourceBytes) : List UInt8 :=
  file.mark ++ file.text.flatMap file.charset.block

/-- An indexed symbol: the lines of its node are in the text, and they are not blank. -/
structure IndexedSymbol (text : List Char) extends SymbolRecord where
  positive : 1 ≤ sourceLocation.lineStart
  ordered : sourceLocation.lineStart ≤ sourceLocation.lineEnd
  bounded : sourceLocation.lineEnd ≤ (newlines.linesOf text).length
  visible : isBlank (String.ofList
    (linesBetween newlines text sourceLocation.lineStart sourceLocation.lineEnd)) = false

namespace IndexedSymbol

variable {text : List Char} (symbol : IndexedSymbol text)

abbrev first : Nat := symbol.sourceLocation.lineStart

abbrev last : Nat := symbol.sourceLocation.lineEnd

/-- The text of the lines of the node. -/
def source : List Char := linesBetween newlines text symbol.first symbol.last

end IndexedSymbol

/-- Universal newlines. -/
def translateNewlines : List Char → List Char
  | [] => []
  | c :: rest =>
    if c = '\r' then
      if rest.head? = some '\n' then translateNewlines rest else '\n' :: translateNewlines rest
    else c :: translateNewlines rest

/-- The source of a project in which a file stands; `utf8` is `bytes.decode("utf-8")`. -/
def holding (snapshot : SourceSnapshot) (utf8 : List UInt8 → Option (List Char))
    (file : SourceBytes) : SourceSnapshot :=
  { snapshot with
    readText := fun _ => (utf8 file.raw).map fun text => String.ofList (translateNewlines text) }

/-- What `source_span_fingerprint` takes the digest of; nothing where it raises. -/
def sourceSpan (raw : List UInt8) (lineStart lineEnd : Nat) : Option (List UInt8) :=
  let lines := byteNewlines.linesOf raw
  if lineStart < 1 ∨ lineEnd < lineStart ∨ lines.length < lineEnd then none
  else some ((lines.take lineEnd).drop (lineStart - 1)).flatten

/-- `source_span_fingerprint`. -/
def sourceSpanFingerprint (digest : List UInt8 → Sha256Digest) (raw : List UInt8)
    (lineStart lineEnd : Nat) : Option Sha256Digest :=
  (sourceSpan raw lineStart lineEnd).map digest

/-! ## Regions -/

theorem ofChar_val_eq_iff (c d : Char) : (CodePoint.ofChar c).val = d.toNat ↔ c = d := by
  refine ⟨fun same => Char.ext (UInt32.toNat_inj.mp same), fun same => ?_⟩
  rw [same]
  rfl

theorem splitlines_ends (c : Char) : splitlines.ends (CodePoint.ofChar c) = isLineBreak c := by
  have each := ofChar_val_eq_iff c
  have listed : ∀ chars : List Char,
      (CodePoint.ofChar c).val ∈ chars.map Char.toNat ↔ c ∈ chars := by
    intro chars
    rw [List.mem_map]
    exact ⟨fun ⟨d, isListed, same⟩ => (each d).mp same.symm ▸ isListed,
      fun isListed => ⟨c, isListed, ((each c).mpr rfl).symm⟩⟩
  exact decide_eq_decide.mpr ((List.Perm.mem_iff (by decide)).trans
    (listed ['\n', '\r', '\x0b', '\x0c', '\x1c', '\x1d', '\x1e', '\x85', '\u2028', '\u2029']))

/-- The code points of a text have its lines. -/
theorem encodes_points : Encodes breaks splitlines fun c => [CodePoint.ofChar c] where
  nonempty _ := List.cons_ne_nil _ _
  ends {c} isEnd :=
    ⟨_, rfl, (splitlines_ends c).trans isEnd, decide_eq_decide.mpr (ofChar_val_eq_iff c '\r'),
      decide_eq_decide.mpr (ofChar_val_eq_iff c '\n')⟩
  plain {c} goes b listed := by
    rw [List.mem_singleton.mp listed, splitlines_ends]
    exact goes

theorem regionOffsets_points (text : List Char) (first last : Nat) :
    regionOffsets (text.map CodePoint.ofChar) first last = offsetsOf breaks text first last := by
  have points : text.map CodePoint.ofChar = text.flatMap fun c => [CodePoint.ofChar c] := by
    exact List.map_eq_flatMap
  have lengths : ∀ count, (splitlines.firstLines count (text.map CodePoint.ofChar)).length =
      (breaks.firstLines count text).length := by
    intro count
    rw [points, encodes_points.firstLines_flatMap, List.length_flatMap]
    simp
  rw [regionOffsets_eq, lengths, lengths, offsetsOf]

/-! ## Excerpts -/

theorem translateNewlines_no_return (text : List Char) : '\r' ∉ translateNewlines text := by
  induction text with
  | nil => exact List.not_mem_nil
  | cons c rest ih =>
    rw [translateNewlines]
    split
    next =>
      split
      next => exact ih
      next => simp [ih]
    next other =>
      rw [List.mem_cons, not_or]
      exact ⟨fun isReturn => other isReturn.symm, ih⟩

/-- In a text without a carriage return every break ends a line. -/
theorem linesBy_eq {text : List Char} (plain : '\r' ∉ text) :
    linesBy isLineBreak text = breaks.linesOf text := by
  induction text with
  | nil => rfl
  | cons c rest ih =>
    rw [List.mem_cons, not_or] at plain
    have notReturn : breaks.returns c = false :=
      decide_eq_false fun isReturn => plain.1 isReturn.symm
    have same : breaks.endsBefore c rest = isLineBreak c := by
      rw [endsBefore, notReturn]
      exact Bool.and_true _
    rw [linesBy, linesOf, same, ih plain.2]
    split
    next => rfl
    next => cases breaks.linesOf rest <;> rfl

/-- The excerpt of a symbol, read from a text. -/
theorem symbolSource_holding {snapshot : SourceSnapshot} {utf8 : List UInt8 → Option (List Char)}
    {file : SourceBytes} {read : List Char} (isRead : utf8 file.raw = some read)
    (symbol : SymbolRecord) :
    symbolSource (holding snapshot utf8 file) symbol =
      let excerpt := String.ofList (linesBetween breaks (translateNewlines read)
        symbol.sourceLocation.lineStart symbol.sourceLocation.lineEnd)
      if isBlank excerpt then none else some excerpt := by
  rw [symbolSource, holding, isRead]
  simp only [Option.map_some, textOfLines, String.toList_ofList,
    linesBy_eq (translateNewlines_no_return read)]
  rfl

/-! ## Bytes -/

theorem linesOf_raw (file : SourceBytes) (nonempty : file.text ≠ []) :
    ∃ line lines, (newlines.linesOf file.text).map (·.flatMap file.charset.block) = line :: lines ∧
      byteNewlines.linesOf file.raw = (file.mark ++ line) :: lines := by
  rw [SourceBytes.raw]
  have encoded := file.charset.encodes.linesOf_flatMap file.text
  obtain ⟨c, rest, isText⟩ := List.exists_cons_of_ne_nil nonempty
  cases isLines : newlines.linesOf file.text with
  | nil => exact absurd isLines (by rw [isText]; exact linesOf_cons_ne_nil c rest)
  | cons line lines =>
    rw [isLines, List.map_cons] at encoded
    refine ⟨_, _, List.map_cons, ?_⟩
    cases isMark : file.mark with
    | nil => exact encoded
    | cons b others =>
      rw [linesOf_append_plain (fun b' isIn => file.unbroken b' (by rwa [isMark]))
        (List.cons_ne_nil _ _), encoded]
      rfl

/-- The digest is taken of the bytes of the lines, after the mark where they are the first. -/
theorem sourceSpan_raw (file : SourceBytes) (symbol : IndexedSymbol file.text) :
    sourceSpan file.raw symbol.first symbol.last = some
      ((if symbol.first = 1 then file.mark else []) ++
        symbol.source.flatMap file.charset.block) := by
  have positive : 1 ≤ symbol.first := symbol.positive
  have ordered : symbol.first ≤ symbol.last := symbol.ordered
  have bounded : symbol.last ≤ (newlines.linesOf file.text).length := symbol.bounded
  have nonempty : file.text ≠ [] := by
    intro empty
    simp only [empty, linesOf, List.length_nil] at bounded
    omega
  obtain ⟨line, lines, encoded, whole⟩ := linesOf_raw file nonempty
  have counts : (newlines.linesOf file.text).length = lines.length + 1 := by
    rw [← List.length_map (·.flatMap file.charset.block), encoded, List.length_cons]
  have source : symbol.source.flatMap file.charset.block =
      (((line :: lines).take symbol.last).drop (symbol.first - 1)).flatten := by
    rw [IndexedSymbol.source, linesBetween, ← encoded, ← List.map_take, ← List.map_drop]
    simp only [List.flatMap_def, List.map_flatten, List.flatten_flatten, List.map_map,
      Function.comp_def]
  obtain ⟨last, isLast⟩ := Nat.exists_eq_add_of_le' (positive.trans ordered)
  rw [sourceSpan, whole]
  simp only [List.length_cons]
  rw [if_neg (by omega), source, isLast]
  split
  next isFirst => simp [isFirst]
  next later =>
    obtain ⟨first, isFirst⟩ := Nat.exists_eq_add_of_le' (show 2 ≤ symbol.first by omega)
    simp [isFirst]

/-! ## The three functions -/

/-- The region, the excerpt and the fingerprint of a symbol are of the lines of its node: they are
taken from where these lines are, and they have their text. -/
structure Exact (snapshot : SourceSnapshot) (utf8 : List UInt8 → Option (List Char))
    (file : SourceBytes) (symbol : IndexedSymbol file.text) : Prop where
  region : regionOffsets (file.text.map CodePoint.ofChar) symbol.first symbol.last =
    offsetsOf newlines file.text symbol.first symbol.last
  content : sliceOf (file.text.map CodePoint.ofChar)
    (regionOffsets (file.text.map CodePoint.ofChar) symbol.first symbol.last) =
      symbol.source.map CodePoint.ofChar
  read : ∃ read, utf8 file.raw = some read ∧
    symbol.last ≤ (newlines.linesOf (translateNewlines read)).length ∧
    offsetsOf breaks (translateNewlines read) symbol.first symbol.last =
      offsetsOf newlines (translateNewlines read) symbol.first symbol.last
  excerpt : symbolSource (holding snapshot utf8 file) symbol.toSymbolRecord =
    some (String.ofList symbol.source)
  hashed : sourceSpan file.raw symbol.first symbol.last =
    some (symbol.source.flatMap file.charset.block)

/-- No separator stands in the lines up to the end of the node, UTF-8 reads the lines as they are,
and no mark is before them. -/
structure Plain (utf8 : List UInt8 → Option (List Char)) (file : SourceBytes)
    (symbol : IndexedSymbol file.text) : Prop where
  unbroken : Unbroken symbol.last file.text
  read : ∃ read, utf8 file.raw = some read ∧
    symbol.last ≤ (newlines.linesOf (translateNewlines read)).length ∧
    Unbroken symbol.last (translateNewlines read) ∧
    linesBetween newlines (translateNewlines read) symbol.first symbol.last = symbol.source
  unmarked : file.mark = [] ∨ 1 < symbol.first

variable {snapshot : SourceSnapshot} {utf8 : List UInt8 → Option (List Char)} {file : SourceBytes}

theorem region_exact_iff (symbol : IndexedSymbol file.text) :
    regionOffsets (file.text.map CodePoint.ofChar) symbol.first symbol.last =
        offsetsOf newlines file.text symbol.first symbol.last ↔
      Unbroken symbol.last file.text := by
  rw [regionOffsets_points, offsetsOf_eq_iff symbol.ordered symbol.bounded]

theorem content_exact (symbol : IndexedSymbol file.text)
    (exact : regionOffsets (file.text.map CodePoint.ofChar) symbol.first symbol.last =
      offsetsOf newlines file.text symbol.first symbol.last) :
    sliceOf (file.text.map CodePoint.ofChar)
      (regionOffsets (file.text.map CodePoint.ofChar) symbol.first symbol.last) =
        symbol.source.map CodePoint.ofChar := by
  rw [exact, sliceOf, ← List.map_take, ← List.map_drop, IndexedSymbol.source,
    linesBetween_eq symbol.ordered]

/-- Where no line is cut, the excerpt is of the lines of the node. -/
theorem symbolSource_eq_iff {read : List Char} (symbol : IndexedSymbol file.text)
    (isRead : utf8 file.raw = some read)
    (exact : offsetsOf breaks (translateNewlines read) symbol.first symbol.last =
      offsetsOf newlines (translateNewlines read) symbol.first symbol.last) :
    symbolSource (holding snapshot utf8 file) symbol.toSymbolRecord =
        some (String.ofList symbol.source) ↔
      linesBetween newlines (translateNewlines read) symbol.first symbol.last =
        symbol.source := by
  have same : linesBetween breaks (translateNewlines read) symbol.first symbol.last =
      linesBetween newlines (translateNewlines read) symbol.first symbol.last := by
    rw [linesBetween_eq symbol.ordered, linesBetween_eq symbol.ordered, exact]
  have visible : isBlank (String.ofList symbol.source) = false := symbol.visible
  rw [symbolSource_holding isRead]
  change (if isBlank (String.ofList (linesBetween breaks (translateNewlines read) symbol.first
    symbol.last)) then none else some _) = _ ↔ _
  rw [same]
  constructor
  · intro isExcerpt
    split at isExcerpt
    next => cases isExcerpt
    next => exact String.ofList_injective (Option.some.inj isExcerpt)
  · intro isSource
    rw [isSource, if_neg (by simp [visible])]

theorem hashed_iff (symbol : IndexedSymbol file.text) :
    sourceSpan file.raw symbol.first symbol.last =
        some (symbol.source.flatMap file.charset.block) ↔
      file.mark = [] ∨ 1 < symbol.first := by
  have positive : 1 ≤ symbol.first := symbol.positive
  rw [sourceSpan_raw, Option.some.injEq, List.append_left_eq_self]
  split
  next isFirst => simp [isFirst]
  next later => simp [show 1 < symbol.first by omega]

/-- The region, the excerpt and the fingerprint of a symbol are exactly the lines of its node when
the file is plain up to the end of the node. -/
theorem sourceSpans_exact_iff (snapshot : SourceSnapshot)
    (utf8 : List UInt8 → Option (List Char)) (file : SourceBytes)
    (symbol : IndexedSymbol file.text) :
    Exact snapshot utf8 file symbol ↔ Plain utf8 file symbol := by
  constructor
  · rintro ⟨region, -, ⟨read, isRead, bounded, cut⟩, excerpt, hashed⟩
    refine ⟨(region_exact_iff symbol).mp region, ⟨read, isRead, bounded, ?_, ?_⟩,
      (hashed_iff symbol).mp hashed⟩
    · exact (offsetsOf_eq_iff symbol.ordered bounded).mp cut
    · exact (symbolSource_eq_iff symbol isRead cut).mp excerpt
  · rintro ⟨unbroken, ⟨read, isRead, bounded, whole, same⟩, unmarked⟩
    have region := (region_exact_iff symbol).mpr unbroken
    have cut := (offsetsOf_eq_iff symbol.ordered bounded).mpr whole
    exact ⟨region, content_exact symbol region, ⟨read, isRead, bounded, cut⟩,
      (symbolSource_eq_iff symbol isRead cut).mpr same, (hashed_iff symbol).mpr unmarked⟩

/-! ## Files in UTF-8 -/

/-- A carriage return ends a line unless a line feed comes next. -/
theorem endsBefore_return (rest : List Char) :
    newlines.endsBefore '\r' rest = !decide (rest.head? = some '\n') := by
  cases rest with
  | nil => rfl
  | cons d others => simp [endsBefore, newlines]

theorem endsBefore_other {c : Char} (other : c ≠ '\r') (rest : List Char) :
    newlines.endsBefore c rest = decide (c = '\n') := by
  simp [endsBefore, newlines, other]

/-- The lines with their newlines translated. -/
theorem linesOf_translateNewlines (text : List Char) :
    newlines.linesOf (translateNewlines text) = (newlines.linesOf text).map translateNewlines := by
  induction text with
  | nil => rfl
  | cons c rest ih =>
    rw [translateNewlines, linesOf]
    split
    next isReturn =>
      subst isReturn
      rw [endsBefore_return]
      split
      next isFeed =>
        -- The carriage return is dropped from the line that goes on with the line feed.
        obtain ⟨others, rfl⟩ := List.head?_eq_some_iff.mp isFeed
        have feed : newlines.linesOf ('\n' :: others) = ['\n'] :: newlines.linesOf others := by
          rw [linesOf, endsBefore_other (by decide)]
          rfl
        rw [if_neg (by simp), ih, feed]
        simp [prepend, translateNewlines]
      next alone =>
        rw [if_pos (by simp [alone]), linesOf, endsBefore_other (by decide), if_pos (by rfl), ih]
        rfl
    next other =>
      rw [linesOf, endsBefore_other other, endsBefore_other other, ih]
      split
      next => simp [translateNewlines, other]
      next => cases newlines.linesOf rest <;> simp [prepend, translateNewlines, other]

theorem head?_firstLines {count : Nat} {text : List Char} (other : text.head? ≠ some '\n') :
    (newlines.firstLines count text).head? ≠ some '\n' := by
  cases text with
  | nil => simp
  | cons c rest =>
    cases count with
    | zero => simp
    | succ count =>
      rw [firstLines]
      split <;> exact other

theorem firstLines_translateNewlines (count : Nat) (text : List Char) :
    newlines.firstLines count (translateNewlines text) =
      translateNewlines (newlines.firstLines count text) := by
  induction text generalizing count with
  | nil => simp [translateNewlines]
  | cons c rest ih =>
    cases count with
    | zero => simp [translateNewlines]
    | succ count =>
      rw [translateNewlines, firstLines]
      split
      next isReturn =>
        subst isReturn
        rw [endsBefore_return]
        split
        next isFeed =>
          obtain ⟨others, rfl⟩ := List.head?_eq_some_iff.mp isFeed
          rw [if_neg (by simp), ih, translateNewlines, if_pos rfl, if_pos]
          rw [firstLines]
          split <;> rfl
        next alone =>
          rw [if_pos (by simp [alone]), firstLines, endsBefore_other (by decide),
            if_pos (by rfl), ih, translateNewlines, if_pos rfl, if_neg (head?_firstLines alone)]
      next other =>
        rw [firstLines, endsBefore_other other, endsBefore_other other, ih, ih]
        split <;> rw [translateNewlines, if_neg other]

theorem translateNewlines_eq_self {text : List Char} (plain : '\r' ∉ text) :
    translateNewlines text = text := by
  induction text with
  | nil => rfl
  | cons c rest ih =>
    rw [List.mem_cons, not_or] at plain
    rw [translateNewlines, if_neg fun isReturn => plain.1 isReturn.symm, ih plain.2]

/-- A separator is translated to itself. -/
theorem mem_dropLast_of_translateNewlines {text : List Char} {c : Char} (other : c ≠ '\n')
    (listed : c ∈ (translateNewlines text).dropLast) : c ∈ text.dropLast := by
  induction text with
  | nil => exact listed
  | cons d rest ih =>
    have among : ∀ (first : Char), (first = d ∨ first = '\n') →
        c ∈ (first :: translateNewlines rest).dropLast → c ∈ (d :: rest).dropLast := by
      intro first isFirst isListed
      cases empty : translateNewlines rest with
      | nil =>
        rw [empty] at isListed
        cases isListed
      | cons e others =>
        have nonempty : rest ≠ [] := by
          rintro rfl
          cases empty
        rw [empty, List.dropLast_cons_of_ne_nil (List.cons_ne_nil _ _), ← empty] at isListed
        rw [List.dropLast_cons_of_ne_nil nonempty]
        rcases List.mem_cons.mp isListed with same | later
        · rcases isFirst with isSame | isFeed
          · exact List.mem_cons.mpr (.inl (same.trans isSame))
          · exact absurd (same.trans isFeed) other
        · exact List.mem_cons_of_mem _ (ih later)
    rw [translateNewlines] at listed
    split at listed
    next =>
      split at listed
      next isFeed =>
        obtain ⟨others, rfl⟩ := List.head?_eq_some_iff.mp isFeed
        rw [List.dropLast_cons_of_ne_nil (List.cons_ne_nil _ _)]
        exact List.mem_cons_of_mem _ (ih listed)
      next => exact among '\n' (.inr rfl) listed
    next => exact among d (.inl rfl) listed

theorem Unbroken.translate {count : Nat} {text : List Char} (unbroken : Unbroken count text) :
    Unbroken count (translateNewlines text) := by
  intro c listed separator
  rw [firstLines_translateNewlines] at listed
  have other : c ≠ '\n' := by
    rintro rfl
    exact absurd separator.2 (by decide)
  exact unbroken c (mem_dropLast_of_translateNewlines other listed) separator

theorem linesBetween_translateNewlines (text : List Char) (first last : Nat) :
    linesBetween newlines (translateNewlines text) first last =
      (((newlines.linesOf text).take last).drop (first - 1)).flatMap translateNewlines := by
  rw [linesBetween, linesOf_translateNewlines, ← List.map_take, ← List.map_drop,
    List.flatMap_def]

/-- In a file in UTF-8, lines without a carriage return are read as they are. -/
theorem linesBetween_translate_iff (text : List Char) (first last : Nat) :
    linesBetween newlines (translateNewlines text) first last =
        linesBetween newlines text first last ↔
      '\r' ∉ linesBetween newlines text first last := by
  rw [linesBetween_translateNewlines, linesBetween]
  generalize ((newlines.linesOf text).take last).drop (first - 1) = lines
  constructor
  · intro same isReturn
    rw [← same, List.mem_flatMap] at isReturn
    obtain ⟨line, -, listed⟩ := isReturn
    exact translateNewlines_no_return line listed
  · intro plain
    rw [List.flatMap_def]
    refine congrArg List.flatten
      ((List.map_congr_left fun line listed => ?_).trans (List.map_id' lines))
    exact translateNewlines_eq_self fun isReturn =>
      plain (List.mem_flatten.mpr ⟨line, listed, isReturn⟩)

/-- A file in UTF-8 without a mark is plain up to the end of a node when no separator stands in
the lines up to it, and no carriage return in the lines of the node. -/
theorem plain_utf8_iff (symbol : IndexedSymbol file.text) (isUtf8 : utf8 file.raw = some file.text)
    (unmarked : file.mark = []) :
    Plain utf8 file symbol ↔ Unbroken symbol.last file.text ∧ '\r' ∉ symbol.source := by
  constructor
  · rintro ⟨unbroken, ⟨read, isRead, -, -, same⟩, -⟩
    cases isUtf8.symm.trans isRead
    exact ⟨unbroken, (linesBetween_translate_iff _ _ _).mp same⟩
  · rintro ⟨unbroken, plain⟩
    refine ⟨unbroken, ⟨_, isUtf8, ?_, unbroken.translate, ?_⟩, .inl unmarked⟩
    · rw [linesOf_translateNewlines, List.length_map]
      exact symbol.bounded
    · exact (linesBetween_translate_iff _ _ _).mpr plain

/-! ## A form feed -/

/-- The bytes of a character in UTF-8. -/
def utf8Block (c : Char) : List UInt8 :=
  let v := c.toNat
  if v < 0x80 then [.ofNat v]
  else if v < 0x800 then [.ofNat (0xC0 + v / 64), .ofNat (0x80 + v % 64)]
  else if v < 0x10000 then
    [.ofNat (0xE0 + v / 4096), .ofNat (0x80 + v / 64 % 64), .ofNat (0x80 + v % 64)]
  else [.ofNat (0xF0 + v / 262144), .ofNat (0x80 + v / 4096 % 64), .ofNat (0x80 + v / 64 % 64),
    .ofNat (0x80 + v % 64)]

theorem byteNewlines_ends_ofNat {n : Nat} (small : n < 256) (feed : n ≠ 10) (other : n ≠ 13) :
    byteNewlines.ends (.ofNat n) = false := by
  have differs : ∀ m < 256, n ≠ m → UInt8.ofNat n ≠ UInt8.ofNat m := by
    intro m within distinct same
    have values := congrArg UInt8.toNat same
    rw [UInt8.toNat_ofNat_of_lt' small, UInt8.toNat_ofNat_of_lt' within] at values
    exact distinct values
  exact Bool.or_eq_false_iff.mpr
    ⟨decide_eq_false (differs 10 (by decide) feed), decide_eq_false (differs 13 (by decide) other)⟩

theorem utf8Block_plain {c : Char} (feed : c ≠ '\n') (other : c ≠ '\r') :
    ∀ b ∈ utf8Block c, byteNewlines.ends b = false := by
  have notFeed : c.toNat ≠ 10 := fun same => feed (Char.ext (UInt32.toNat_inj.mp same))
  have notReturn : c.toNat ≠ 13 := fun same => other (Char.ext (UInt32.toNat_inj.mp same))
  have bounded : c.toNat < 0x110000 := (CodePoint.ofChar c).isLt
  rw [utf8Block]
  -- The bytes of the longer blocks are 128 or more.
  split
  next => exact List.forall_mem_singleton.mpr (byteNewlines_ends_ofNat (by omega) notFeed notReturn)
  next =>
    split
    next =>
      intro b listed
      rcases List.mem_pair.mp listed with rfl | rfl <;>
        exact byteNewlines_ends_ofNat (by omega) (by omega) (by omega)
    next =>
      split
      next =>
        simp only [List.forall_mem_cons, List.not_mem_nil, IsEmpty.forall_iff, implies_true,
          and_true]
        refine ⟨?_, ?_, ?_⟩ <;> exact byteNewlines_ends_ofNat (by omega) (by omega) (by omega)
      next =>
        simp only [List.forall_mem_cons, List.not_mem_nil, IsEmpty.forall_iff, implies_true,
          and_true]
        refine ⟨?_, ?_, ?_, ?_⟩ <;> exact byteNewlines_ends_ofNat (by omega) (by omega) (by omega)

def utf8Charset : Charset where
  block := utf8Block
  encodes := {
    nonempty := fun c => by
      rw [utf8Block]
      split
      next => exact List.cons_ne_nil _ _
      next =>
        split
        next => exact List.cons_ne_nil _ _
        next => split <;> exact List.cons_ne_nil _ _
    ends := fun {c} isEnd => by
      rcases (Bool.or_eq_true _ _).mp isEnd with isFeed | isReturn
      · rw [of_decide_eq_true isFeed]
        exact ⟨10, rfl, rfl, rfl, rfl⟩
      · rw [of_decide_eq_true isReturn]
        exact ⟨13, rfl, rfl, rfl, rfl⟩
    plain := fun {c} goes =>
      utf8Block_plain (fun isFeed => by simp [newlines, isFeed] at goes)
        (fun isReturn => by simp [newlines, isReturn] at goes) }

/-- A module with a form feed in a string, and a function after it. -/
def formFeedFile : SourceBytes where
  text := "x = \"\x0c\"\ndef f():\n    pass\n".toList
  charset := utf8Charset
  mark := []
  unbroken := by simp

def formFeedSymbol : IndexedSymbol formFeedFile.text where
  symbolId := "sgsym_f"
  sourceFileId := "sgfile_app"
  qualifiedName := "app.f"
  kind := .function
  sourceLocation := ⟨"app.py", 2, 0, 3, 8⟩
  positive := by decide
  ordered := by decide
  bounded := by decide +kernel
  visible := by decide +kernel

def formFeedReading (raw : List UInt8) : Option (List Char) :=
  if raw = formFeedFile.raw then some formFeedFile.text else none

/-- The region of the function begins in the line of the string and ends before its body. -/
theorem formFeed_shifts :
    formFeedSymbol.source = "def f():\n    pass\n".toList ∧
      sliceOf (Str.ofString (String.ofList formFeedFile.text))
        (regionOffsets (Str.ofString (String.ofList formFeedFile.text)) 2 3) =
          Str.ofString "\"\ndef f():\n" ∧
      sourceSpan formFeedFile.raw 2 3 = some ("def f():\n    pass\n".toList.flatMap utf8Block) ∧
      ¬ Exact (Semantics.shipSnapshot "sha256:index" "") formFeedReading formFeedFile
        formFeedSymbol := by
  refine ⟨by decide +kernel, by decide +kernel, by decide +kernel, fun exact => ?_⟩
  exact absurd exact.region (by decide +kernel)

end Evidence

end StateGuard
