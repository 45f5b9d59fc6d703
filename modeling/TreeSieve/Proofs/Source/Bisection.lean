import TreeSieve.Proofs.Source.Cover
import TreeSieve.Proofs.Source.Lines

/-!
# Lines found by bisection

`SourceFile.lineColumn` goes through the index of lines from its beginning.  To halve the
index again and again is faster, but there is more that can go wrong: an entry may be read
where there is none, the place before the first one may be asked for, and a number may
outgrow a word.  Here all of this is checked, and none of it happens.

A search for an offset tells either where the offset stands in the index or where it would
have to be put in, and `Bisection.Promised` says no more than that.  Any search that keeps
the promise leads to the line of the offset, and bisection keeps it.
-/

namespace TreeSieve

namespace Bisection

open SourceFile (LineAt)

/-! ## Checked steps -/

/-- What can go wrong. -/
inductive Slip where
  /-- An entry is read where there is none. -/
  | outOfRange
  /-- A number is taken from a smaller one. -/
  | underflow
  /-- A number is too large for a word. -/
  | overflow
  deriving DecidableEq

/-- A result, unless something goes wrong. -/
abbrev Checked := Except Slip

/-- Read an entry of the index. -/
def entry (starts : List Nat) (index : Nat) : Checked Nat :=
  match starts[index]? with
  | some start => .ok start
  | none => .error .outOfRange

/-- Take a number from another. -/
def minus (whole part : Nat) : Checked Nat :=
  if part ≤ whole then .ok (whole - part) else .error .underflow

/-- Add one. -/
def plusOne (number : Nat) : Checked Nat :=
  if number + 1 < UInt64.size then .ok (number + 1) else .error .overflow

/-- What a search comes to. -/
inductive Outcome where
  | found (index : Nat)
  | absent (place : Nat)

/-- The line that an outcome leads to: the one that was found, or the one before the
place at which there is none. -/
def Outcome.line : Outcome → Checked Nat
  | found index => .ok index
  | absent place => minus place 1

/-- Halve a part of the index until one entry is left: the last one at or before the
offset, if there is any. -/
def narrow (starts : List Nat) (offset base size : Nat) : Checked Nat :=
  if several : 1 < size then do
    let start ← entry starts (base + size / 2)
    narrow starts offset (if offset < start then base else base + size / 2) (size - size / 2)
  else .ok base
termination_by size
decreasing_by omega

/-- Compare the offset with the one entry that is left. -/
def outcomeAt (offset last start : Nat) : Outcome :=
  if start = offset then .found last
  else if start < offset then .absent (last + 1)
  else .absent last

/-- Look for an offset in an index. -/
def search (starts : List Nat) (offset : Nat) : Checked Outcome :=
  if starts.isEmpty then .ok (.absent 0)
  else do
    let last ← narrow starts offset 0 starts.length
    let start ← entry starts last
    return outcomeAt offset last start

/-- The line and column that a search for the offset leads to. -/
def placeOf (starts : List Nat) (offset : Nat) (outcome : Outcome) : Checked LineColumn := do
  let line ← outcome.line
  let start ← entry starts line
  let column ← minus offset start
  return ⟨← plusOne line, ← plusOne column⟩

/-- The line and column of an offset. -/
def lineColumn (file : SourceFile) (offset : Nat) : Checked LineColumn :=
  if file.lineStarts.isEmpty then return ⟨1, ← plusOne offset⟩
  else do
    let outcome ← search file.lineStarts offset
    placeOf file.lineStarts offset outcome

/-! ## Halving -/

variable {starts : List Nat} {offset : Nat}

theorem entry_eq_ok {index start : Nat} (startEq : starts[index]? = some start) :
    entry starts index = .ok start := by
  rw [entry, startEq]

theorem minus_eq_ok {whole part : Nat} (le : part ≤ whole) :
    minus whole part = .ok (whole - part) :=
  if_pos le

theorem plusOne_eq_ok {number : Nat} (small : number + 1 < UInt64.size) :
    plusOne number = .ok (number + 1) :=
  if_pos small

/-- A part of the index that the last entry at or before the offset is in, unless all
entries are behind it. -/
structure Window (starts : List Nat) (offset base size : Nat) : Prop where
  pos : 0 < size
  inside : base + size ≤ starts.length
  base_le : base = 0 ∨ ∀ start, starts[base]? = some start → start ≤ offset
  behind : ∀ index, base + size ≤ index → ∀ start, starts[index]? = some start → offset < start

theorem window_whole (notEmpty : starts ≠ []) (offset : Nat) :
    Window starts offset 0 starts.length where
  pos := List.length_pos_iff.mpr notEmpty
  inside := Nat.le_of_eq (Nat.zero_add _)
  base_le := Or.inl rfl
  behind index outside start startEq := by
    rw [Nat.zero_add] at outside
    exact absurd (List.getElem?_eq_some_iff.mp startEq).1 (Nat.not_lt.mpr outside)

/-- Half of a window is a window. -/
theorem Window.half {base size start : Nat} (window : Window starts offset base size)
    (sorted : starts.Pairwise (· < ·)) (several : 1 < size)
    (startEq : starts[base + size / 2]? = some start) :
    Window starts offset (if offset < start then base else base + size / 2)
      (size - size / 2) := by
  have inside := window.inside
  by_cases isBehind : offset < start
  · rw [if_pos isBehind]
    refine ⟨by omega, by omega, window.base_le, ?_⟩
    intro index outside other otherEq
    -- The entries from the middle on are behind the offset with the one in the middle.
    have ordered := SourceFile.le_of_index_le sorted startEq otherEq (by omega)
    exact Nat.lt_of_lt_of_le isBehind ordered
  · rw [if_neg isBehind]
    refine ⟨by omega, by omega, Or.inr ?_, ?_⟩
    · intro other otherEq
      rw [startEq] at otherEq
      cases otherEq
      exact Nat.le_of_not_lt isBehind
    · intro index outside
      exact window.behind index (by omega)

/-- Halving reads no entry outside the index and ends with a window of one entry. -/
theorem Window.narrow {base size : Nat} (window : Window starts offset base size)
    (sorted : starts.Pairwise (· < ·)) :
    ∃ last, narrow starts offset base size = .ok last ∧ Window starts offset last 1 := by
  fun_induction Bisection.narrow starts offset base size with
  | case1 base size several ih =>
      have inside := window.inside
      have middle : base + size / 2 < starts.length := by omega
      have startEq := List.getElem?_eq_getElem middle
      rw [entry_eq_ok startEq]
      exact ih _ (window.half sorted several startEq)
  | case2 base size single =>
      have pos := window.pos
      have sizeEq : size = 1 := by omega
      exact ⟨base, rfl, sizeEq ▸ window⟩

/-! ## Searching -/

/-- What a search promises: an entry that is found is the offset, and where it is absent
all entries before the place are less and all others are greater. -/
inductive Promised (starts : List Nat) (offset : Nat) : Outcome → Prop
  | found {index : Nat} (startEq : starts[index]? = some offset) :
      Promised starts offset (.found index)
  | absent {place : Nat} (inside : place ≤ starts.length)
      (before : ∀ index < place, ∀ start, starts[index]? = some start → start < offset)
      (behind : ∀ index, place ≤ index → ∀ start, starts[index]? = some start →
        offset < start) :
      Promised starts offset (.absent place)

/-- The comparison with the entry of a window of one keeps the promise. -/
theorem Window.promised {last start : Nat} (window : Window starts offset last 1)
    (sorted : starts.Pairwise (· < ·)) (startEq : starts[last]? = some start) :
    Promised starts offset (outcomeAt offset last start) := by
  rw [outcomeAt]
  by_cases same : start = offset
  · rw [if_pos same]
    exact .found (startEq.trans (congrArg some same))
  rw [if_neg same]
  by_cases less : start < offset
  · rw [if_pos less]
    apply Promised.absent window.inside
    · intro index before other otherEq
      have ordered := SourceFile.le_of_index_le sorted otherEq startEq (Nat.le_of_lt_succ before)
      exact Nat.lt_of_le_of_lt ordered less
    · exact window.behind
  · rw [if_neg less]
    have greater : offset < start := Nat.lt_of_le_of_ne (Nat.le_of_not_lt less) (Ne.symm same)
    -- Only the first entry can be left although it is behind the offset.
    have isFirst : last = 0 := by
      rcases window.base_le with isFirst | begun
      · exact isFirst
      · exact absurd greater (Nat.not_lt.mpr (begun start startEq))
    apply Promised.absent (Nat.le_of_succ_le window.inside)
    · intro index before
      rw [isFirst] at before
      exact absurd before (Nat.not_lt_zero index)
    · intro index behind other otherEq
      have ordered := SourceFile.le_of_index_le sorted startEq otherEq behind
      exact Nat.lt_of_lt_of_le greater ordered

/-- Bisection comes to an outcome and keeps the promise. -/
theorem exists_search_eq_ok (sorted : starts.Pairwise (· < ·)) (offset : Nat) :
    ∃ outcome, search starts offset = .ok outcome ∧ Promised starts offset outcome := by
  cases starts with
  | nil => exact ⟨.absent 0, rfl, .absent (Nat.le_refl 0) (by simp) (by simp)⟩
  | cons first rest =>
      rcases (window_whole (List.cons_ne_nil first rest) offset).narrow sorted with
        ⟨last, narrowed, window⟩
      have startEq := List.getElem?_eq_getElem (Nat.lt_of_succ_le window.inside)
      refine ⟨_, ?_, window.promised sorted startEq⟩
      rw [search, List.isEmpty_cons, if_neg Bool.false_ne_true, narrowed]
      simp only [entry_eq_ok startEq, bind, Except.bind, pure, Except.pure]

/-- A search that keeps its promise leads to the line of the offset, if the first line
starts at the beginning. -/
theorem Promised.exists_lineAt {outcome : Outcome} (promised : Promised starts offset outcome)
    (sorted : starts.Pairwise (· < ·)) (firstEq : starts[0]? = some 0) :
    ∃ index start, LineAt starts offset index start ∧ outcome.line = .ok index := by
  cases promised with
  | @found index startEq =>
      refine ⟨index, offset, ⟨startEq, Nat.le_refl _, ?_⟩, rfl⟩
      intro next nextEq
      exact SourceFile.lt_of_index_lt sorted startEq nextEq (Nat.lt_succ_self index)
  | @absent place inside before behind =>
      cases place with
      | zero => exact absurd (behind 0 (Nat.le_refl 0) 0 firstEq) (Nat.not_lt_zero offset)
      | succ index =>
          have startEq := List.getElem?_eq_getElem (Nat.lt_of_succ_le inside)
          have begun := before index (Nat.lt_succ_self index) _ startEq
          exact ⟨index, _, ⟨startEq, Nat.le_of_lt begun, behind (index + 1) (Nat.le_refl _)⟩,
            minus_eq_ok (Nat.succ_pos index)⟩

/-! ## Lines and columns -/

theorem placeOf_eq_ok {outcome : Outcome} {index start : Nat}
    (line : LineAt starts offset index start) (lineEq : outcome.line = .ok index)
    (lineSmall : index + 1 < UInt64.size) (small : offset + 1 < UInt64.size) :
    placeOf starts offset outcome = .ok ⟨index + 1, offset - start + 1⟩ := by
  have columnSmall : offset - start + 1 < UInt64.size :=
    Nat.lt_of_le_of_lt (Nat.succ_le_succ (Nat.sub_le offset start)) small
  simp only [placeOf, lineEq, entry_eq_ok line.start_eq, minus_eq_ok line.start_le,
    plusOne_eq_ok lineSmall, plusOne_eq_ok columnSmall, bind, Except.bind, pure, Except.pure]

end Bisection

namespace SourceFile

theorem line_le (file : SourceFile) (offset : Nat) :
    (file.indexed.lineColumn offset).line ≤ offset + 1 := by
  rw [line_eq_count]
  apply Nat.succ_le_succ
  calc
    (file.bytes.take offset).count lineFeed ≤ (file.bytes.take offset).length :=
      List.count_le_length
    _ ≤ offset := List.length_take_le offset file.bytes

theorem column_le (file : SourceFile) (offset : Nat) :
    (file.indexed.lineColumn offset).column ≤ offset + 1 := by
  rcases file.exists_lineAt_lineColumn offset with ⟨index, start, -, found⟩
  rw [found]
  exact Nat.succ_le_succ (Nat.sub_le offset start)

/-- Every search that keeps its promise gives line and column, and nothing goes wrong on
the way. -/
theorem placeOf_of_promised (file : SourceFile) {offset : Nat} (small : offset + 1 < UInt64.size)
    {outcome : Bisection.Outcome}
    (promised : Bisection.Promised file.indexed.lineStarts offset outcome) :
    Bisection.placeOf file.indexed.lineStarts offset outcome =
      .ok (file.indexed.lineColumn offset) := by
  have firstEq : file.indexed.lineStarts[0]? = some 0 := by rw [lineStarts_indexed]; rfl
  rcases promised.exists_lineAt file.pairwise_lineStarts firstEq with
    ⟨index, start, line, lineEq⟩
  have lineSmall : index + 1 < UInt64.size := by
    have bounded := file.line_le offset
    rw [line.lineColumn_eq] at bounded
    exact Nat.lt_of_le_of_lt bounded small
  rw [Bisection.placeOf_eq_ok line lineEq lineSmall small, line.lineColumn_eq]

theorem bisection_eq_ok (file : SourceFile) {offset : Nat} (small : offset + 1 < UInt64.size) :
    Bisection.lineColumn file.indexed offset = .ok (file.indexed.lineColumn offset) := by
  rcases Bisection.exists_search_eq_ok file.pairwise_lineStarts offset with
    ⟨outcome, found, promised⟩
  have notEmpty : file.indexed.lineStarts.isEmpty = false := by rw [lineStarts_indexed]; rfl
  rw [Bisection.lineColumn, notEmpty, if_neg Bool.false_ne_true, found]
  exact file.placeOf_of_promised small promised

/-- Line and column are words where the number after the offset is one. -/
theorem wrapped_lineColumn (file : SourceFile) {offset : Nat} (small : offset + 1 < UInt64.size) :
    (file.indexed.lineColumn offset).wrapped = file.indexed.lineColumn offset := by
  have line := Nat.lt_of_le_of_lt (file.line_le offset) small
  have column := Nat.lt_of_le_of_lt (file.column_le offset) small
  rw [LineColumn.wrapped, Nat.mod_eq_of_lt line, Nat.mod_eq_of_lt column]

/-- A span begins at or before the place where it ends, and at the same place exactly if
it is empty. -/
theorem lineColumns_ordered (file : SourceFile) {span : Span}
    (small : span.start.toNat + span.length.toNat + 1 < UInt64.size) :
    (file.indexed.lineColumns span).first.position ≤
        (file.indexed.lineColumns span).last.position ∧
      ((file.indexed.lineColumns span).first = (file.indexed.lineColumns span).last ↔
        span.isEmpty = true) := by
  have fits : span.Fits := Nat.lt_of_succ_lt small
  have ordered := UInt64.le_iff_toNat_le.mp (Span.fits_iff.mp fits)
  have finishSmall : span.finish.toNat + 1 < UInt64.size := by
    rw [Span.finish, UInt64.toNat_add]
    exact Nat.lt_of_le_of_lt (Nat.succ_le_succ (Nat.mod_le _ _)) small
  have startSmall : span.start.toNat + 1 < UInt64.size :=
    Nat.lt_of_le_of_lt (Nat.succ_le_succ ordered) finishSmall
  rw [lineColumns, file.wrapped_lineColumn startSmall, file.wrapped_lineColumn finishSmall]
  constructor
  · exact file.strictMono_position.monotone ordered
  · rw [Span.isEmpty_iff, ← UInt64.toNat_inj, eq_comm]
    constructor
    · intro samePlace
      exact file.strictMono_position.injective (congrArg LineColumn.position samePlace)
    · intro sameOffset
      exact congrArg file.indexed.lineColumn sameOffset

/-- Lines and columns are exact and can be undone, for every text with its index of lines
and every offset, also behind the end of the text and inside a character.  The number of
the line is one more than the number of line feeds among the bytes before the offset.  Its
start, which the index has at that line, is the beginning of the text or just after a line
feed, with none between it and the offset, and the column is one more than the distance
from there.  Where the number after the offset is still a word, a checked look-up by
bisection comes to the same line and column, and so does any search that keeps its
promise.  No two offsets have the same line and column; later ones have later ones, by the
lines first, so a span begins before it ends unless it is empty. -/
theorem lineColumn_exact_and_ordered (file : SourceFile) :
    (∀ offset,
      (file.indexed.lineColumn offset).line = (file.bytes.take offset).count lineFeed + 1 ∧
        ∃ start,
          file.indexed.lineStarts[(file.indexed.lineColumn offset).line - 1]? = some start ∧
            (start = 0 ∨ ∃ place, start = place + 1 ∧ file.bytes[place]? = some lineFeed) ∧
            (∀ place, start ≤ place → place < offset → file.bytes[place]? ≠ some lineFeed) ∧
            start ≤ offset ∧ (file.indexed.lineColumn offset).column = offset - start + 1 ∧
            start + (file.indexed.lineColumn offset).column - 1 = offset) ∧
    (∀ offset, offset + 1 < UInt64.size →
      Bisection.lineColumn file.indexed offset = .ok (file.indexed.lineColumn offset) ∧
        (∃ outcome, Bisection.search file.indexed.lineStarts offset = .ok outcome ∧
          Bisection.Promised file.indexed.lineStarts offset outcome) ∧
        ∀ outcome, Bisection.Promised file.indexed.lineStarts offset outcome →
          Bisection.placeOf file.indexed.lineStarts offset outcome =
            .ok (file.indexed.lineColumn offset)) ∧
    Function.Injective file.indexed.lineColumn ∧
    (StrictMono fun offset => (file.indexed.lineColumn offset).position) ∧
    ∀ span : Span, span.start.toNat + span.length.toNat + 1 < UInt64.size →
      (file.indexed.lineColumns span).first.position ≤
          (file.indexed.lineColumns span).last.position ∧
        ((file.indexed.lineColumns span).first = (file.indexed.lineColumns span).last ↔
          span.isEmpty = true) := by
  refine ⟨?_, ?_, ?_, file.strictMono_position, ?_⟩
  · intro offset
    refine ⟨file.line_eq_count offset, ?_⟩
    rcases file.exists_lineAt_lineColumn offset with ⟨index, start, line, found⟩
    rw [found]
    refine ⟨start, line.start_eq, line.start_zero_or_lineFeed,
      fun place => line.not_lineFeed, line.start_le, rfl, ?_⟩
    exact Nat.add_sub_of_le line.start_le
  · intro offset small
    exact ⟨file.bisection_eq_ok small,
      Bisection.exists_search_eq_ok file.pairwise_lineStarts offset,
      fun _ => file.placeOf_of_promised small⟩
  · intro offset other same
    exact file.strictMono_position.injective (congrArg LineColumn.position same)
  · intro span small
    exact file.lineColumns_ordered small

/-- Two lines, of which the first is one character of two bytes. -/
def sampleAccent : SourceFile :=
  .unindexed "a.js" "é\nb"

/-- Inside the character, just after the line feed and far behind the end. -/
theorem lineColumn_sampleAccent :
    Bisection.lineColumn sampleAccent.indexed 1 = .ok ⟨1, 2⟩ ∧
      Bisection.lineColumn sampleAccent.indexed 3 = .ok ⟨2, 1⟩ ∧
        Bisection.lineColumn sampleAccent.indexed 100 = .ok ⟨2, 98⟩ ∧
          (sampleAccent.indexed.lineColumns ⟨2, 0⟩).first =
            (sampleAccent.indexed.lineColumns ⟨2, 0⟩).last := by
  obtain ⟨-, looked, -, -, ordered⟩ := lineColumn_exact_and_ordered sampleAccent
  exact ⟨(looked 1 (by decide)).1, (looked 3 (by decide)).1, (looked 100 (by decide)).1,
    (ordered ⟨2, 0⟩ (by decide)).2.mpr rfl⟩

end SourceFile

end TreeSieve
