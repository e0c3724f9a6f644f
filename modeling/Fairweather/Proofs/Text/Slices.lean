/-!
# Parts of a text between byte offsets

A text can be cut at a byte offset where one of its characters begins, and at its end. `Text.slice?`
gives the part of a text between two such offsets, and nothing for any others.

**Cuts are splits.** To cut a text somewhere is to split it into what is before and what is behind
(`exists_pos_splits`), and two cuts give three parts (`eq_append_copy_slice`). Hence the parts that
there are between two offsets are those by which the text falls into three, as many bytes from its
beginning as the offsets say.

Main result: `slice?_eq_some_iff`.
-/

namespace Fairweather

namespace Text

/-- The part of a text between two byte offsets. There is none unless the text can be cut at both,
and the second is not before the first. -/
def slice? (text : String) (start stop : Nat) : Option String := do
  let p ← text.pos? ⟨start⟩
  let q ← text.pos? ⟨stop⟩
  (text.slice? p q).map String.Slice.copy

variable {text part before after : String} {start stop : Nat}

theorem pos?_eq_some_iff {p : text.Pos} : text.pos? ⟨start⟩ = some p ↔ p.offset = ⟨start⟩ := by
  unfold String.pos? String.Slice.pos?
  split
  · simp only [Option.map_some, Option.some.injEq, String.Pos.ext_iff]
    exact eq_comm
  · next h =>
    simp only [Option.map_none, reduceCtorEq, false_iff]
    intro hp
    rw [← hp] at h
    exact h (String.Pos.Raw.isValidForSlice_eq_true_iff.2 p.isValid.toSlice)

theorem exists_pos_splits (h : text = before ++ after) : ∃ p : text.Pos, p.Splits before after := by
  have hvalid : String.Pos.Raw.IsValid text before.rawEndPos :=
    String.Pos.Raw.isValid_iff_exists_append.2 ⟨before, after, h, rfl⟩
  exact ⟨⟨_, hvalid⟩, h, rfl⟩

theorem eq_append_copy_slice {p q : text.Pos} (h : p ≤ q) :
    text = (text.sliceTo p).copy ++ (text.slice p q h).copy ++ (text.sliceFrom q).copy := by
  have hparts :=
    @String.Slice.copy_eq_copy_slice text.toSlice p.toSlice q.toSlice (by simpa using h)
  rw [String.copy_toSlice] at hparts
  exact hparts

theorem copy_slice_of_splits {p q : text.Pos} (h : p ≤ q) (hp : p.Splits before (part ++ after))
    (hq : q.Splits (before ++ part) after) : (text.slice p q h).copy = part := by
  have hparts := hq.eq_append.symm.trans (eq_append_copy_slice h)
  rw [p.splits.eq_left hp, q.splits.eq_right hq, String.append_left_inj,
    String.append_right_inj] at hparts
  exact hparts.symm

/-- **The part between two offsets** is the middle one of three that make the text. -/
theorem slice?_eq_some_iff :
    slice? text start stop = some part ↔
      ∃ before after, text = before ++ part ++ after ∧ start = before.utf8ByteSize ∧
        stop = (before ++ part).utf8ByteSize := by
  simp only [slice?, String.slice?, Option.bind_eq_bind, Option.bind_eq_some_iff,
    Option.map_eq_some_iff, pos?_eq_some_iff]
  constructor
  · rintro ⟨p, hp, q, hq, cut, hcut, rfl⟩
    split at hcut
    · next h =>
      obtain rfl := Option.some.inj hcut
      have hle : start ≤ stop := by simpa [String.Pos.le_iff, String.Pos.Raw.le_iff, hp, hq] using h
      exact ⟨_, _, eq_append_copy_slice h, by simp [hp], by simp [hp, hq, hle]⟩
    · cases hcut
  · rintro ⟨before, after, htext, rfl, rfl⟩
    obtain ⟨q, hq⟩ := exists_pos_splits htext
    rw [String.append_assoc] at htext
    obtain ⟨p, hp⟩ := exists_pos_splits htext
    have hle : p ≤ q := by
      rw [String.Pos.le_iff, hp.offset_eq_rawEndPos, hq.offset_eq_rawEndPos, String.Pos.Raw.le_iff]
      simp
    refine ⟨p, hp.offset_eq_rawEndPos, q, hq.offset_eq_rawEndPos, _, dif_pos hle, ?_⟩
    exact copy_slice_of_splits hle hp hq

/-- There is no part that begins inside a character, or ends beyond the text. -/
example : slice? "é<3" 2 3 = some "<" ∧ slice? "é<3" 1 3 = none ∧ slice? "é<3" 2 5 = none := by
  decide +kernel

end Text

end Fairweather
