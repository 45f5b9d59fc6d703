import Mathlib.Data.List.Basic
import Mathlib.Data.Prod.Lex
import TreeSieve.Source.File

/-!
# Lines of a text

The lines of a text start at its beginning and behind each of its line feeds.  The index
of lines is made character by character, but offsets count bytes.  In UTF-8 the byte of a
line feed is part of no other character, so the index can be read off the bytes.

An offset lies in the line that starts last at or before it, `SourceFile.LineAt`.  There is
one such line for every offset, also for those behind the end of the text and for those
inside a character, and it is later for later offsets.
-/

namespace TreeSieve

/-- Lines first, then columns. -/
def LineColumn.position (place : LineColumn) : Nat ×ₗ Nat :=
  toLex (place.line, place.column)

namespace SourceFile

/-- The byte that ends a line. -/
def lineFeed : UInt8 :=
  10

/-- The text of a file in UTF-8. -/
def bytes (file : SourceFile) : List UInt8 :=
  file.code.toUTF8.data.toList

theorem bytes_eq (file : SourceFile) :
    file.bytes = file.code.toList.flatMap String.utf8EncodeChar := by
  rw [bytes, String.toUTF8, ← String.utf8Encode_toList, List.utf8Encode,
    List.toList_data_toByteArray]

/-! ## The index of lines, byte by byte -/

/-- The offsets just after each line feed among bytes that begin at `offset`. -/
def breaksOf (offset : Nat) : List UInt8 → List Nat
  | [] => []
  | byte :: rest =>
      if byte = lineFeed then (offset + 1) :: breaksOf (offset + 1) rest
      else breaksOf (offset + 1) rest

theorem breaksOf_append (offset : Nat) (bytes others : List UInt8) :
    breaksOf offset (bytes ++ others) =
      breaksOf offset bytes ++ breaksOf (offset + bytes.length) others := by
  induction bytes generalizing offset with
  | nil => rfl
  | cons byte rest ih =>
      have shifted : offset + (byte :: rest).length = offset + 1 + rest.length := by
        rw [List.length_cons, Nat.add_right_comm, Nat.add_assoc]
      rw [List.cons_append, breaksOf, breaksOf, ih, shifted]
      split <;> rfl

theorem breaksOf_of_not_mem {bytes : List UInt8} (unbroken : lineFeed ∉ bytes) (offset : Nat) :
    breaksOf offset bytes = [] := by
  induction bytes generalizing offset with
  | nil => rfl
  | cons byte rest ih =>
      rw [List.mem_cons, not_or] at unbroken
      rw [breaksOf, if_neg (Ne.symm unbroken.1), ih unbroken.2]

theorem lineFeed_eq_ofNat_iff {value : Nat} (small : value < UInt8.size) :
    lineFeed = UInt8.ofNat value ↔ value = 10 := by
  rw [← UInt8.toNat_inj, UInt8.toNat_ofNat_of_lt' small]
  exact eq_comm

/-- The byte of a line feed is part of no other character. -/
theorem lineFeed_not_mem_utf8EncodeChar {character : Char} (other : character ≠ '\n') :
    lineFeed ∉ String.utf8EncodeChar character := by
  have otherValue : character.val.toNat ≠ 10 := fun same =>
    other (Char.ext (UInt32.toNat_inj.mp same))
  -- Every byte of a character of more than one byte is at least 128.
  have wide : ∀ value, 128 ≤ value → value < UInt8.size → lineFeed ≠ UInt8.ofNat value := by
    intro value low small same
    rw [(lineFeed_eq_ofNat_iff small).mp same] at low
    contradiction
  intro member
  simp only [String.utf8EncodeChar] at member
  split at member
  · rename_i single
    rw [List.mem_singleton] at member
    exact otherValue ((lineFeed_eq_ofNat_iff (Nat.lt_of_le_of_lt single (by decide))).mp member)
  · revert member
    have size : UInt8.size = 256 := rfl
    repeat' split
    all_goals
      simp only [List.mem_cons, List.not_mem_nil, or_false, imp_false, not_or]
      and_intros <;> apply wide <;> omega

theorem breaksFrom_eq_breaksOf (offset : Nat) (characters : List Char) :
    breaksFrom offset characters =
      breaksOf offset (characters.flatMap String.utf8EncodeChar) := by
  induction characters generalizing offset with
  | nil => rfl
  | cons character rest ih =>
      rw [breaksFrom, List.flatMap_cons, breaksOf_append, String.length_utf8EncodeChar, ← ih]
      by_cases isFeed : character = '\n'
      · cases isFeed
        rfl
      · simp only [if_neg isFeed, breaksOf_of_not_mem (lineFeed_not_mem_utf8EncodeChar isFeed),
          List.nil_append]

theorem lineStarts_indexed (file : SourceFile) :
    file.indexed.lineStarts = 0 :: breaksOf 0 file.bytes := by
  rw [bytes_eq, ← breaksFrom_eq_breaksOf]
  rfl

theorem mem_breaksOf_iff {offset place : Nat} {bytes : List UInt8} :
    place ∈ breaksOf offset bytes ↔
      ∃ index, bytes[index]? = some lineFeed ∧ place = offset + index + 1 := by
  induction bytes generalizing offset with
  | nil => simp [breaksOf]
  | cons byte rest ih =>
      rw [breaksOf]
      constructor
      · intro member
        by_cases isFeed : byte = lineFeed
        · rw [if_pos isFeed] at member
          rcases List.mem_cons.mp member with rfl | later
          · exact ⟨0, congrArg some isFeed, rfl⟩
          · rcases ih.mp later with ⟨index, found, rfl⟩
            exact ⟨index + 1, found, by omega⟩
        · rw [if_neg isFeed] at member
          rcases ih.mp member with ⟨index, found, rfl⟩
          exact ⟨index + 1, found, by omega⟩
      · rintro ⟨index, found, rfl⟩
        cases index with
        | zero =>
            rw [if_pos (Option.some.inj found)]
            exact List.mem_cons_self
        | succ index =>
            have later : offset + (index + 1) + 1 ∈ breaksOf (offset + 1) rest :=
              ih.mpr ⟨index, found, by omega⟩
            split
            · exact List.mem_cons_of_mem _ later
            · exact later

theorem lt_of_mem_breaksOf {offset place : Nat} {bytes : List UInt8}
    (member : place ∈ breaksOf offset bytes) : offset < place := by
  rcases mem_breaksOf_iff.mp member with ⟨index, -, rfl⟩
  exact Nat.lt_succ_of_le (Nat.le_add_right offset index)

theorem pairwise_breaksOf (offset : Nat) (bytes : List UInt8) :
    (breaksOf offset bytes).Pairwise (· < ·) := by
  induction bytes generalizing offset with
  | nil => exact List.Pairwise.nil
  | cons byte rest ih =>
      rw [breaksOf]
      split
      · exact List.pairwise_cons.mpr ⟨fun _ => lt_of_mem_breaksOf, ih (offset + 1)⟩
      · exact ih (offset + 1)

/-- The index of lines is in increasing order. -/
theorem pairwise_lineStarts (file : SourceFile) :
    file.indexed.lineStarts.Pairwise (· < ·) := by
  rw [lineStarts_indexed, List.pairwise_cons]
  exact ⟨fun _ => lt_of_mem_breaksOf, pairwise_breaksOf 0 file.bytes⟩

/-- As many lines have begun behind a line feed as there are line feeds. -/
theorem length_takeWhile_breaksOf (offset count : Nat) (bytes : List UInt8) :
    ((breaksOf offset bytes).takeWhile (· ≤ offset + count)).length =
      (bytes.take count).count lineFeed := by
  induction bytes generalizing offset count with
  | nil => simp [breaksOf]
  | cons byte rest ih =>
      cases count with
      | zero =>
          cases begun : breaksOf offset (byte :: rest) with
          | nil => rfl
          | cons first later =>
              have behind : offset < first :=
                lt_of_mem_breaksOf (begun ▸ List.mem_cons_self)
              rw [List.takeWhile_cons_of_neg (by simpa using behind)]
              rfl
      | succ count =>
          have shifted : offset + (count + 1) = offset + 1 + count := by
            rw [Nat.add_right_comm, Nat.add_assoc]
          rw [breaksOf, List.take_succ_cons, shifted]
          by_cases isFeed : byte = lineFeed
          · rw [if_pos isFeed, isFeed, List.count_cons_self, ← ih (offset + 1) count,
              List.takeWhile_cons_of_pos (by simp), List.length_cons]
          · rw [if_neg isFeed, List.count_cons_of_ne isFeed, ih (offset + 1) count]

/-! ## The line of an offset -/

/-- The line of an offset: it starts at or before the offset, and the next one, if there
is one, starts behind it. -/
structure LineAt (starts : List Nat) (offset index start : Nat) : Prop where
  start_eq : starts[index]? = some start
  start_le : start ≤ offset
  lt_next : ∀ next, starts[index + 1]? = some next → offset < next

theorem lt_of_index_lt {starts : List Nat} (sorted : starts.Pairwise (· < ·))
    {first second start other : Nat} (startEq : starts[first]? = some start)
    (otherEq : starts[second]? = some other) (before : first < second) : start < other := by
  rcases List.getElem?_eq_some_iff.mp startEq with ⟨firstLt, rfl⟩
  rcases List.getElem?_eq_some_iff.mp otherEq with ⟨secondLt, rfl⟩
  exact List.pairwise_iff_getElem.mp sorted first second firstLt secondLt before

theorem le_of_index_le {starts : List Nat} (sorted : starts.Pairwise (· < ·))
    {first second start other : Nat} (startEq : starts[first]? = some start)
    (otherEq : starts[second]? = some other) (before : first ≤ second) : start ≤ other := by
  rcases Nat.eq_or_lt_of_le before with rfl | earlier
  · exact Nat.le_of_eq (Option.some.inj (startEq.symm.trans otherEq))
  · exact Nat.le_of_lt (lt_of_index_lt sorted startEq otherEq earlier)

namespace LineAt

variable {starts : List Nat} {offset index start : Nat}

/-- Lines that start behind an offset come after its line. -/
theorem lt_of_index_lt (line : LineAt starts offset index start)
    (sorted : starts.Pairwise (· < ·)) {later other : Nat} (otherEq : starts[later]? = some other)
    (behind : index < later) : offset < other := by
  have inside : index + 1 < starts.length :=
    Nat.lt_of_le_of_lt behind (List.getElem?_eq_some_iff.mp otherEq).1
  have nextEq := List.getElem?_eq_getElem inside
  exact Nat.lt_of_lt_of_le (line.lt_next _ nextEq) (le_of_index_le sorted nextEq otherEq behind)

/-- A later offset is in a later line, or in the same line behind the other. -/
theorem index_le (line : LineAt starts offset index start) (sorted : starts.Pairwise (· < ·))
    {later laterIndex laterStart : Nat} (laterLine : LineAt starts later laterIndex laterStart)
    (before : offset ≤ later) : index ≤ laterIndex := by
  by_contra outOfOrder
  have behind := laterLine.lt_of_index_lt sorted line.start_eq (Nat.lt_of_not_le outOfOrder)
  exact Nat.lt_irrefl _ (Nat.lt_of_le_of_lt (Nat.le_trans line.start_le before) behind)

theorem unique (line : LineAt starts offset index start) (sorted : starts.Pairwise (· < ·))
    {otherIndex otherStart : Nat} (other : LineAt starts offset otherIndex otherStart) :
    index = otherIndex ∧ start = otherStart := by
  have sameIndex := Nat.le_antisymm (line.index_le sorted other (Nat.le_refl _))
    (other.index_le sorted line (Nat.le_refl _))
  cases sameIndex
  exact ⟨rfl, Option.some.inj (line.start_eq.symm.trans other.start_eq)⟩

end LineAt

/-- The last of the lines that have begun is the line of the offset. -/
theorem exists_lineAt_takeWhile {offset first : Nat} (begun : first ≤ offset) (rest : List Nat) :
    ∃ index start, LineAt (first :: rest) offset index start ∧
      ((first :: rest).takeWhile (· ≤ offset)).length = index + 1 ∧
        ((first :: rest).takeWhile (· ≤ offset)).getLast? = some start := by
  induction rest generalizing first with
  | nil =>
      rw [List.takeWhile_cons_of_pos (by simpa using begun)]
      exact ⟨0, first, ⟨rfl, begun, fun _ missing => nomatch missing⟩, rfl, rfl⟩
  | cons second rest ih =>
      rw [List.takeWhile_cons_of_pos (by simpa using begun)]
      by_cases secondBegun : second ≤ offset
      · rcases ih secondBegun with ⟨index, start, line, lengthEq, lastEq⟩
        refine ⟨index + 1, start, ⟨line.start_eq, line.start_le, line.lt_next⟩, ?_, ?_⟩
        · rw [List.length_cons, lengthEq]
        · rw [List.getLast?_cons, lastEq, Option.getD_some]
      · rw [List.takeWhile_cons_of_neg (by simpa using secondBegun)]
        refine ⟨0, first, ⟨rfl, begun, ?_⟩, rfl, rfl⟩
        rintro next ⟨⟩
        exact Nat.lt_of_not_le secondBegun

/-- Line and column are those of the line that the offset is in. -/
theorem exists_lineAt_lineColumn (file : SourceFile) (offset : Nat) :
    ∃ index start, LineAt file.indexed.lineStarts offset index start ∧
      file.indexed.lineColumn offset = ⟨index + 1, offset - start + 1⟩ := by
  rcases exists_lineAt_takeWhile (Nat.zero_le offset) (breaksOf 0 file.bytes) with
    ⟨index, start, line, lengthEq, lastEq⟩
  rw [← lineStarts_indexed] at line lengthEq lastEq
  refine ⟨index, start, line, ?_⟩
  simp only [lineColumn, lastEq, lengthEq]

theorem LineAt.lineColumn_eq {file : SourceFile} {offset index start : Nat}
    (line : LineAt file.indexed.lineStarts offset index start) :
    file.indexed.lineColumn offset = ⟨index + 1, offset - start + 1⟩ := by
  rcases exists_lineAt_lineColumn file offset with ⟨otherIndex, otherStart, other, found⟩
  rcases line.unique file.pairwise_lineStarts other with ⟨rfl, rfl⟩
  exact found

/-! ## Lines and line feeds -/

/-- The number of a line is one more than the number of line feeds before the offset. -/
theorem line_eq_count (file : SourceFile) (offset : Nat) :
    (file.indexed.lineColumn offset).line = (file.bytes.take offset).count lineFeed + 1 := by
  rcases exists_lineAt_takeWhile (Nat.zero_le offset) (breaksOf 0 file.bytes) with
    ⟨index, start, line, lengthEq, -⟩
  have counted := length_takeWhile_breaksOf 0 offset file.bytes
  rw [Nat.zero_add] at counted
  rw [List.takeWhile_cons_of_pos (by simp), List.length_cons, counted] at lengthEq
  rw [← lineStarts_indexed] at line
  rw [line.lineColumn_eq, ← lengthEq]

/-- A line starts at the beginning or just after a line feed. -/
theorem LineAt.start_zero_or_lineFeed {file : SourceFile} {offset index start : Nat}
    (line : LineAt file.indexed.lineStarts offset index start) :
    start = 0 ∨ ∃ place, start = place + 1 ∧ file.bytes[place]? = some lineFeed := by
  have member := List.mem_of_getElem? line.start_eq
  rw [lineStarts_indexed] at member
  rcases List.mem_cons.mp member with isZero | isBreak
  · exact Or.inl isZero
  · rcases mem_breaksOf_iff.mp isBreak with ⟨place, found, rfl⟩
    exact Or.inr ⟨place, by rw [Nat.zero_add], found⟩

/-- There is no line feed between the start of a line and an offset in it. -/
theorem LineAt.not_lineFeed {file : SourceFile} {offset index start : Nat}
    (line : LineAt file.indexed.lineStarts offset index start) {place : Nat}
    (fromStart : start ≤ place) (before : place < offset) :
    file.bytes[place]? ≠ some lineFeed := by
  intro isFeed
  have isBreak : place + 1 ∈ breaksOf 0 file.bytes :=
    mem_breaksOf_iff.mpr ⟨place, isFeed, by rw [Nat.zero_add]⟩
  have isStart : place + 1 ∈ file.indexed.lineStarts := by
    rw [lineStarts_indexed]
    exact List.mem_cons_of_mem 0 isBreak
  rcases List.mem_iff_getElem?.mp isStart with ⟨other, otherEq⟩
  have notBehind : ¬ index < other := by
    intro behind
    have tooLate := line.lt_of_index_lt file.pairwise_lineStarts otherEq behind
    exact Nat.lt_irrefl _ (Nat.lt_of_lt_of_le tooLate before)
  have startLe := le_of_index_le file.pairwise_lineStarts otherEq line.start_eq
    (Nat.le_of_not_lt notBehind)
  exact Nat.lt_irrefl _ (Nat.lt_of_lt_of_le startLe fromStart)

/-! ## Lines and columns in order -/

/-- Later offsets have later lines and columns, by the lines first. -/
theorem strictMono_position (file : SourceFile) :
    StrictMono fun offset => (file.indexed.lineColumn offset).position := by
  intro offset later before
  rcases exists_lineAt_lineColumn file offset with ⟨index, start, line, found⟩
  rcases exists_lineAt_lineColumn file later with ⟨laterIndex, laterStart, laterLine, laterFound⟩
  simp only [found, laterFound, LineColumn.position]
  rw [Prod.Lex.toLex_lt_toLex]
  have ordered := line.index_le file.pairwise_lineStarts laterLine (Nat.le_of_lt before)
  rcases Nat.eq_or_lt_of_le ordered with rfl | earlier
  · cases Option.some.inj (line.start_eq.symm.trans laterLine.start_eq)
    have columns : offset - start < later - start := Nat.sub_lt_sub_right line.start_le before
    exact Or.inr ⟨rfl, Nat.succ_lt_succ columns⟩
  · exact Or.inl (Nat.succ_lt_succ earlier)

end SourceFile

end TreeSieve
