import Mathlib.Data.List.Induction
import TreeSieve.Search
import TreeSieve.Ust.Builder

/-!
# Covering spans

A union takes no notice of empty spans, on either side, so two empty spans have the
second one for their union, and order matters where there is no text.  Where there is
some, the union of a list of spans goes from the least start to the greatest end of
those with text; `Span.Hull` says so without the union.

A span starts and ends at offsets of one word each.  Its end is an offset exactly if
it is not before its start, `Span.Fits`, and unions of such spans are such spans.
-/

namespace TreeSieve

namespace Span

/-- The end of the span is an offset: start and length add up to one. -/
def Fits (span : Span) : Prop :=
  span.start.toNat + span.length.toNat < UInt64.size

instance (span : Span) : Decidable span.Fits :=
  inferInstanceAs (Decidable (_ < _))

/-! ## Bounds -/

theorem fits_iff {span : Span} : span.Fits ↔ span.start ≤ span.finish := by
  rw [Fits, finish, UInt64.le_iff_toNat_le, UInt64.toNat_add]
  have startLt := span.start.toNat_lt_size
  have lengthLt := span.length.toNat_lt_size
  rw [UInt64.size] at *
  omega

theorem isEmpty_iff {span : Span} : span.isEmpty = true ↔ span.finish = span.start := by
  rw [isEmpty, beq_iff_eq, finish]
  constructor
  · intro noText
    rw [noText, UInt64.add_zero]
  · intro closed
    exact (UInt64.add_right_inj span.start).mp (closed.trans (UInt64.add_zero _).symm)

theorem fits_of_isEmpty {span : Span} (isEmpty : span.isEmpty = true) : span.Fits := by
  rw [fits_iff, isEmpty_iff.mp isEmpty]
  exact UInt64.le_rfl

/-- A span is told by its two ends. -/
theorem eq_of_bounds {first second : Span} (startEq : first.start = second.start)
    (finishEq : first.finish = second.finish) : first = second := by
  rcases first with ⟨start, length⟩
  rcases second with ⟨otherStart, otherLength⟩
  cases startEq
  exact congrArg (Span.mk start) ((UInt64.add_right_inj start).mp finishEq)

theorem finish_ofBounds {start stop : UInt64} (ordered : start ≤ stop) :
    (ofBounds start stop).finish = stop := by
  rw [ofBounds, if_neg (UInt64.not_lt.mpr ordered), finish, UInt64.add_comm]
  exact UInt64.sub_add_cancel stop start

/-! ## Unions -/

instance : Std.LawfulOrderLeftLeaningMax UInt64 where
  max_eq_left first second ordered := by
    rw [UInt64.max_def]
    split
    · rename_i reverse
      exact UInt64.le_antisymm ordered reverse
    · rfl
  max_eq_right first second unordered := by
    rw [UInt64.max_def, if_pos (UInt64.le_of_lt (UInt64.not_le.mp unordered))]

section Union

variable {left right : Span}

theorem union_of_isEmpty_left (isEmpty : left.isEmpty = true) (right : Span) :
    left.union right = right := by
  simp [union, isEmpty]

theorem union_of_isEmpty_right (hasText : left.isEmpty = false) (isEmpty : right.isEmpty = true) :
    left.union right = left := by
  simp [union, hasText, isEmpty]

theorem union_of_text (leftText : left.isEmpty = false) (rightText : right.isEmpty = false) :
    left.union right = ofBounds (min left.start right.start) (max left.finish right.finish) := by
  simp [union, leftText, rightText]

/-- The bounds of a union are in their order, so it is never cut off at its start. -/
theorem min_start_le_max_finish (leftFits : left.Fits) (right : Span) :
    min left.start right.start ≤ max left.finish right.finish :=
  UInt64.le_trans Std.min_le_left (UInt64.le_trans (fits_iff.mp leftFits) Std.left_le_max)

theorem start_union (leftText : left.isEmpty = false) (rightText : right.isEmpty = false) :
    (left.union right).start = min left.start right.start := by
  rw [union_of_text leftText rightText, ofBounds]

theorem finish_union (leftFits : left.Fits) (leftText : left.isEmpty = false)
    (rightText : right.isEmpty = false) :
    (left.union right).finish = max left.finish right.finish := by
  rw [union_of_text leftText rightText]
  exact finish_ofBounds (min_start_le_max_finish leftFits right)

theorem fits_union (leftFits : left.Fits) (rightFits : right.Fits) : (left.union right).Fits := by
  cases leftText : left.isEmpty with
  | true =>
      rw [union_of_isEmpty_left leftText]
      exact rightFits
  | false =>
      cases rightText : right.isEmpty with
      | true =>
          rw [union_of_isEmpty_right leftText rightText]
          exact leftFits
      | false =>
          rw [fits_iff, start_union leftText rightText, finish_union leftFits leftText rightText]
          exact min_start_le_max_finish leftFits right

/-- A union with text on the left has text. -/
theorem isEmpty_union (leftFits : left.Fits) (leftText : left.isEmpty = false) (right : Span) :
    (left.union right).isEmpty = false := by
  cases rightText : right.isEmpty with
  | true => rw [union_of_isEmpty_right leftText rightText, leftText]
  | false =>
      rw [Bool.eq_false_iff, Ne, isEmpty_iff, start_union leftText rightText,
        finish_union leftFits leftText rightText]
      intro same
      -- Both ends of the left span lie between bounds that are the same.
      have startLe : left.finish ≤ left.start :=
        UInt64.le_trans (same ▸ Std.left_le_max) Std.min_le_left
      have closed : left.isEmpty = true :=
        isEmpty_iff.mpr (UInt64.le_antisymm startLe (fits_iff.mp leftFits))
      rw [closed] at leftText
      contradiction

theorem union_comm (leftText : left.isEmpty = false) (rightText : right.isEmpty = false) :
    left.union right = right.union left := by
  have startComm : min left.start right.start = min right.start left.start :=
    Std.Commutative.comm _ _
  have finishComm : max left.finish right.finish = max right.finish left.finish :=
    UInt64.le_antisymm (Std.max_le_iff.mpr ⟨Std.right_le_max, Std.left_le_max⟩)
      (Std.max_le_iff.mpr ⟨Std.right_le_max, Std.left_le_max⟩)
  rw [union_of_text leftText rightText, union_of_text rightText leftText, startComm, finishComm]

theorem union_assoc {first second third : Span} (firstFits : first.Fits)
    (secondFits : second.Fits) :
    (first.union second).union third = first.union (second.union third) := by
  cases firstText : first.isEmpty with
  | true => rw [union_of_isEmpty_left firstText, union_of_isEmpty_left firstText]
  | false =>
      cases secondText : second.isEmpty with
      | true => rw [union_of_isEmpty_right firstText secondText, union_of_isEmpty_left secondText]
      | false =>
          have bothText := isEmpty_union firstFits firstText second
          cases thirdText : third.isEmpty with
          | true =>
              rw [union_of_isEmpty_right bothText thirdText,
                union_of_isEmpty_right secondText thirdText]
          | false =>
              have laterText := isEmpty_union secondFits secondText third
              apply eq_of_bounds
              · rw [start_union bothText thirdText, start_union firstText secondText,
                  start_union firstText laterText, start_union secondText thirdText]
                exact Std.Associative.assoc _ _ _
              · rw [finish_union (fits_union firstFits secondFits) bothText thirdText,
                  finish_union firstFits firstText secondText,
                  finish_union firstFits firstText laterText,
                  finish_union secondFits secondText thirdText]
                exact Std.Associative.assoc _ _ _

end Union

/-! ## Hulls -/

/-- A span that goes from the least start to the greatest end of those spans of a list
that have text. -/
structure Hull (spans : List Span) (span : Span) : Prop where
  exists_start : ∃ part ∈ spans, part.isEmpty = false ∧ part.start = span.start
  exists_finish : ∃ part ∈ spans, part.isEmpty = false ∧ part.finish = span.finish
  start_le : ∀ part ∈ spans, part.isEmpty = false → span.start ≤ part.start
  le_finish : ∀ part ∈ spans, part.isEmpty = false → part.finish ≤ span.finish

/-- The least span that contains those spans of a list that have text. -/
structure LeastOver (spans : List Span) (span : Span) : Prop where
  contains : ∀ part ∈ spans, part.isEmpty = false → span.contains part = true
  least : ∀ other : Span,
    (∀ part ∈ spans, part.isEmpty = false → other.contains part = true) →
      other.contains span = true

namespace Hull

variable {spans : List Span} {span : Span}

theorem unique (hull : Hull spans span) {other : Span} (otherHull : Hull spans other) :
    span = other := by
  apply eq_of_bounds
  · rcases hull.exists_start with ⟨part, member, hasText, startEq⟩
    rcases otherHull.exists_start with ⟨otherPart, otherMember, otherText, otherEq⟩
    apply UInt64.le_antisymm
    · exact otherEq ▸ hull.start_le otherPart otherMember otherText
    · exact startEq ▸ otherHull.start_le part member hasText
  · rcases hull.exists_finish with ⟨part, member, hasText, finishEq⟩
    rcases otherHull.exists_finish with ⟨otherPart, otherMember, otherText, otherEq⟩
    apply UInt64.le_antisymm
    · exact finishEq ▸ otherHull.le_finish part member hasText
    · exact otherEq ▸ hull.le_finish otherPart otherMember otherText

/-- A hull depends on which spans there are and not on their order. -/
theorem congr (hull : Hull spans span) {others : List Span}
    (same : ∀ part, part ∈ spans ↔ part ∈ others) : Hull others span where
  exists_start := by
    rcases hull.exists_start with ⟨part, member, found⟩
    exact ⟨part, (same part).mp member, found⟩
  exists_finish := by
    rcases hull.exists_finish with ⟨part, member, found⟩
    exact ⟨part, (same part).mp member, found⟩
  start_le part member := hull.start_le part ((same part).mpr member)
  le_finish part member := hull.le_finish part ((same part).mpr member)

theorem leastOver (hull : Hull spans span) : LeastOver spans span where
  contains part member hasText := by
    simp [Span.contains, hull.start_le part member hasText, hull.le_finish part member hasText]
  least other containing := by
    rcases hull.exists_start with ⟨first, firstMember, firstText, startEq⟩
    rcases hull.exists_finish with ⟨last, lastMember, lastText, finishEq⟩
    have startLe := containing first firstMember firstText
    have leFinish := containing last lastMember lastText
    simp only [Span.contains, Bool.and_eq_true, decide_eq_true_eq] at *
    exact ⟨startEq ▸ startLe.1, finishEq ▸ leFinish.2⟩

theorem isEmpty (hull : Hull spans span) (fits : ∀ part ∈ spans, part.Fits) :
    span.isEmpty = false := by
  rcases hull.exists_start with ⟨part, member, hasText, startEq⟩
  rw [Bool.eq_false_iff, Ne, isEmpty_iff, ← startEq]
  intro closed
  have finishLe : part.finish ≤ part.start := closed ▸ hull.le_finish part member hasText
  have partEmpty : part.isEmpty = true :=
    isEmpty_iff.mpr (UInt64.le_antisymm finishLe (fits_iff.mp (fits part member)))
  rw [partEmpty] at hasText
  contradiction

theorem fits (hull : Hull spans span) (fits : ∀ part ∈ spans, part.Fits) : span.Fits := by
  rcases hull.exists_start with ⟨part, member, hasText, startEq⟩
  rw [fits_iff, ← startEq]
  exact UInt64.le_trans (fits_iff.mp (fits part member)) (hull.le_finish part member hasText)

theorem singleton {part : Span} (hasText : part.isEmpty = false)
    (others : ∀ other ∈ spans, other.isEmpty = true) : Hull (spans ++ [part]) part := by
  have member : part ∈ spans ++ [part] := List.mem_append_right _ List.mem_cons_self
  have only : ∀ other ∈ spans ++ [part], other.isEmpty = false → other = part := by
    intro other isOther otherText
    rcases List.mem_append.mp isOther with old | new
    · rw [others other old] at otherText
      contradiction
    · exact List.mem_singleton.mp new
  refine ⟨⟨part, member, hasText, rfl⟩, ⟨part, member, hasText, rfl⟩, ?_, ?_⟩
  · intro other isOther otherText
    rw [only other isOther otherText]
    exact UInt64.le_rfl
  · intro other isOther otherText
    rw [only other isOther otherText]
    exact UInt64.le_rfl

theorem concat_of_isEmpty (hull : Hull spans span) {part : Span} (noText : part.isEmpty = true) :
    Hull (spans ++ [part]) span := by
  have old : ∀ other ∈ spans ++ [part], other.isEmpty = false → other ∈ spans := by
    intro other isOther otherText
    rcases List.mem_append.mp isOther with old | new
    · exact old
    · rw [List.mem_singleton.mp new, noText] at otherText
      contradiction
  constructor
  · rcases hull.exists_start with ⟨first, member, found⟩
    exact ⟨first, List.mem_append_left _ member, found⟩
  · rcases hull.exists_finish with ⟨last, member, found⟩
    exact ⟨last, List.mem_append_left _ member, found⟩
  · intro other isOther otherText
    exact hull.start_le other (old other isOther otherText) otherText
  · intro other isOther otherText
    exact hull.le_finish other (old other isOther otherText) otherText

theorem concat_of_text (hull : Hull spans span) (fits : span.Fits) (spanText : span.isEmpty = false)
    {part : Span} (hasText : part.isEmpty = false) :
    Hull (spans ++ [part]) (span.union part) := by
  have startEq := start_union spanText hasText
  have finishEq := finish_union fits spanText hasText
  have member : part ∈ spans ++ [part] := List.mem_append_right _ List.mem_cons_self
  constructor
  · rcases Std.min_eq_or (a := span.start) (b := part.start) with old | new
    · rcases hull.exists_start with ⟨first, isFirst, firstText, firstEq⟩
      exact ⟨first, List.mem_append_left _ isFirst, firstText, by rw [startEq, old, firstEq]⟩
    · exact ⟨part, member, hasText, by rw [startEq, new]⟩
  · rcases Std.max_eq_or (a := span.finish) (b := part.finish) with old | new
    · rcases hull.exists_finish with ⟨last, isLast, lastText, lastEq⟩
      exact ⟨last, List.mem_append_left _ isLast, lastText, by rw [finishEq, old, lastEq]⟩
    · exact ⟨part, member, hasText, by rw [finishEq, new]⟩
  · intro other isOther otherText
    rw [startEq]
    rcases List.mem_append.mp isOther with old | new
    · exact UInt64.le_trans Std.min_le_left (hull.start_le other old otherText)
    · rw [List.mem_singleton.mp new]
      exact Std.min_le_right
  · intro other isOther otherText
    rw [finishEq]
    rcases List.mem_append.mp isOther with old | new
    · exact UInt64.le_trans (hull.le_finish other old otherText) Std.left_le_max
    · rw [List.mem_singleton.mp new]
      exact Std.right_le_max

end Hull

/-! ## Covers -/

/-- The span that covers a list of spans: the hull of those with text, or where there is
no text the last of them. -/
structure Covers (span : Span) (spans : List Span) : Prop where
  hull : (∃ part ∈ spans, part.isEmpty = false) → Hull spans span
  last : (∀ part ∈ spans, part.isEmpty = true) → span = spans.getLastD empty

namespace Covers

variable {span : Span} {spans : List Span}

theorem nil : Covers empty [] where
  hull := by simp
  last _ := rfl

theorem isEmpty_of_last (covers : span.Covers spans)
    (noText : ∀ part ∈ spans, part.isEmpty = true) : span.isEmpty = true := by
  rw [covers.last noText]
  cases spans using List.reverseRecOn with
  | nil => rfl
  | append_singleton spans part =>
      rw [List.getLastD_concat]
      exact noText part (List.mem_append_right _ List.mem_cons_self)

/-- One more span widens a cover to the union with it. -/
theorem concat (covers : span.Covers spans) (fits : ∀ part ∈ spans, part.Fits) (part : Span) :
    (span.union part).Covers (spans ++ [part]) := by
  by_cases someText : ∃ other ∈ spans, other.isEmpty = false
  · have hull := covers.hull someText
    have spanText := hull.isEmpty fits
    constructor
    · intro _
      cases partText : part.isEmpty with
      | true =>
          rw [union_of_isEmpty_right spanText partText]
          exact hull.concat_of_isEmpty partText
      | false => exact hull.concat_of_text (hull.fits fits) spanText partText
    · intro noText
      rcases someText with ⟨other, member, hasText⟩
      rw [noText other (List.mem_append_left _ member)] at hasText
      contradiction
  · have noText : ∀ other ∈ spans, other.isEmpty = true := by
      intro other member
      by_contra hasText
      exact someText ⟨other, member, Bool.eq_false_iff.mpr hasText⟩
    rw [union_of_isEmpty_left (covers.isEmpty_of_last noText)]
    constructor
    · rintro ⟨other, member, hasText⟩
      rcases List.mem_append.mp member with old | new
      · rw [noText other old] at hasText
        contradiction
      · rw [List.mem_singleton.mp new] at hasText
        exact Hull.singleton hasText noText
    · intro _
      rw [List.getLastD_concat]

end Covers

theorem covers_cover {spans : List Span} (fits : ∀ part ∈ spans, part.Fits) :
    (cover spans).Covers spans := by
  induction spans using List.reverseRecOn with
  | nil => exact Covers.nil
  | append_singleton spans part ih =>
      have earlierFit : ∀ other ∈ spans, other.Fits := fun other member =>
        fits other (List.mem_append_left _ member)
      have covers := (ih earlierFit).concat earlierFit part
      rw [cover, List.foldl_append]
      exact covers

theorem cover_eq_of_perm {spans others : List Span} (fits : ∀ part ∈ spans, part.Fits)
    (someText : ∃ part ∈ spans, part.isEmpty = false) (perm : spans.Perm others) :
    cover others = cover spans := by
  have othersFit : ∀ part ∈ others, part.Fits := fun part member =>
    fits part (perm.mem_iff.mpr member)
  have othersText : ∃ part ∈ others, part.isEmpty = false := by
    rcases someText with ⟨part, member, hasText⟩
    exact ⟨part, perm.mem_iff.mp member, hasText⟩
  have hull := (covers_cover fits).hull someText
  have othersHull := (covers_cover othersFit).hull othersText
  exact othersHull.unique (hull.congr fun _ => perm.mem_iff)

theorem fits_cover {spans : List Span} (fits : ∀ part ∈ spans, part.Fits) :
    (cover spans).Fits := by
  have covers := covers_cover fits
  by_cases someText : ∃ part ∈ spans, part.isEmpty = false
  · exact (covers.hull someText).fits fits
  · apply fits_of_isEmpty
    apply covers.isEmpty_of_last
    intro part member
    by_contra hasText
    exact someText ⟨part, member, Bool.eq_false_iff.mpr hasText⟩

end Span

theorem Builder.mapM_span?_eq_some_iff {builder : Builder} {ids : List NodeId}
    {spans : List Span} :
    ids.mapM builder.span? = some spans ↔ ids.map builder.span? = spans.map some := by
  induction ids generalizing spans with
  | nil => cases spans <;> simp
  | cons id ids ih =>
      simp only [List.mapM_cons, Option.bind_eq_bind, Option.bind_eq_some_iff, Option.pure_def,
        Option.some_inj, ih, List.map_cons]
      constructor
      · rintro ⟨span, spanEq, rest, restEq, rfl⟩
        rw [spanEq, restEq, List.map_cons]
      · intro found
        rcases List.map_eq_cons_iff.mp found.symm with ⟨span, rest, rfl, spanEq, restEq⟩
        exact ⟨span, spanEq.symm, rest, restEq.symm, rfl⟩

/-- The span that covers nodes is the cover of their spans. -/
theorem Builder.cover?_eq_some_iff {builder : Builder} {ids : List NodeId} {span : Span} :
    builder.cover? ids = some span ↔
      ∃ spans, ids.map builder.span? = spans.map some ∧ Span.cover spans = span := by
  simp only [cover?, Option.map_eq_some_iff, mapM_span?_eq_some_iff]

namespace Span

/-- The cover of spans whose ends are offsets is their least upper bound.  If one of them
has text, it goes from the least start to the greatest end of those that do; it contains
each of these, every span that contains them contains it, and their order is of no
account.  If none has text, it is the last of them, and empty where there is none.  Unions
are associative, with or without text, and commutative where both sides have text; their
ends are offsets, and their bounds are never out of order.  A finding spans the cover of
its spans, and nodes in a builder have the cover of their spans. -/
theorem cover_least_and_union_laws :
    (∀ spans : List Span, (∀ part ∈ spans, part.Fits) →
      (cover spans).Fits ∧
        ((∃ part ∈ spans, part.isEmpty = false) →
          Hull spans (cover spans) ∧ LeastOver spans (cover spans) ∧
            ∀ others : List Span, spans.Perm others → cover others = cover spans) ∧
        ((∀ part ∈ spans, part.isEmpty = true) → cover spans = spans.getLastD empty)) ∧
    (∀ first second third : Span, first.Fits → second.Fits →
      (first.union second).union third = first.union (second.union third)) ∧
    (∀ left right : Span, left.isEmpty = false → right.isEmpty = false →
      left.union right = right.union left) ∧
    (∀ left right : Span, left.Fits → right.Fits →
      (left.union right).Fits ∧
        min left.start right.start ≤ max left.finish right.finish) ∧
    (∀ finding : Finding, finding.span = cover finding.spans) ∧
    ∀ (builder : Builder) (ids : List NodeId) (spans : List Span),
      ids.map builder.span? = spans.map some → builder.cover? ids = some (cover spans) := by
  refine ⟨?_, ?_, ?_, ?_, fun _ => rfl, ?_⟩
  · intro spans fits
    have covers := covers_cover fits
    refine ⟨fits_cover fits, ?_, covers.last⟩
    intro someText
    have hull := covers.hull someText
    exact ⟨hull, hull.leastOver, fun _ => cover_eq_of_perm fits someText⟩
  · intro first second third firstFits secondFits
    exact union_assoc firstFits secondFits
  · intro left right leftText rightText
    exact union_comm leftText rightText
  · intro left right leftFits rightFits
    exact ⟨fits_union leftFits rightFits, min_start_le_max_finish leftFits right⟩
  · intro builder ids spans found
    exact Builder.cover?_eq_some_iff.mpr ⟨spans, found, rfl⟩

/-- Two spans with text between two without. -/
def sampleParts : List Span :=
  [⟨4, 0⟩, ⟨10, 5⟩, ⟨2, 3⟩, ⟨70, 0⟩]

/-- The spans with text are covered in either order, and the last one without text is
the cover of those without. -/
theorem cover_sampleParts :
    (∀ part ∈ sampleParts, part.Fits) ∧ cover sampleParts = ⟨2, 13⟩ ∧
      cover sampleParts.reverse = ⟨2, 13⟩ ∧ cover [⟨4, 0⟩, ⟨70, 0⟩] = ⟨70, 0⟩ := by
  have fits : ∀ part ∈ sampleParts, part.Fits := by decide
  have emptyFit : ∀ part ∈ ([⟨4, 0⟩, ⟨70, 0⟩] : List Span), part.Fits := by decide
  obtain ⟨covers, -⟩ := cover_least_and_union_laws
  obtain ⟨-, whole, -⟩ := covers sampleParts fits
  obtain ⟨-, -, ordered⟩ := whole (by decide)
  obtain ⟨-, -, last⟩ := covers _ emptyFit
  have coverEq : cover sampleParts = ⟨2, 13⟩ := by decide
  refine ⟨fits, coverEq, ?_, last (by decide)⟩
  exact (ordered _ (List.reverse_perm _).symm).trans coverEq

end Span

end TreeSieve
