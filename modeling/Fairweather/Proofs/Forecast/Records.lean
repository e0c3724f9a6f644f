import Fairweather.Forecast.Record
import Fairweather.Proofs.Calendar.ReadBack
import Fairweather.Proofs.Forecast.Sheets
import Fairweather.Proofs.Json.ReadBack

/-!
# Serialised observations read back

An observation is written as an object with a field for its timestamp and one for each measure.
What is read from the text is decided field by field.

**Sheets.** A document that has all the fields of a form, each once and in the declared order, is
read field by field: the sheet is there just when every field can be read
(`SheetForm.decode_document_eq_ok_iff`), and otherwise the first field that cannot be read is its
fault (`SheetForm.decode_document_eq_error`).

**Fields.** A timestamp is read as a clock shows it. A finite number is read as itself if it is read
with correct rounding. What is not finite is written as `null`, where no number can be read.

**Observations.** So an observation of finite numbers that are read with correct rounding is read
back, but for a leap second within a minute, and one with a number that is not finite is refused
(`Observation.RoundTrips`). Neither condition on what is read back can be spared
(`Observation.exists_ofJson_toJson_ne`).

Main result: `Observation.roundTrips_toJson_and_pretty`.
-/

namespace Fairweather

open Json

/-! ## Written objects -/

namespace Json.Document

variable {members : List (String × Document)}

theorem collect_memberNodes {σ : Type} (take : σ → String → Node → Except Fault σ) (soFar : σ) :
    (memberNodes members).collect take soFar =
      members.foldlM (fun soFar member => take soFar member.1 member.2.node) soFar := by
  induction members generalizing soFar with
  | nil => rfl
  | cons member members ih =>
    obtain ⟨name, value⟩ := member
    rw [memberNodes, Members.collect, Quoted.decode_ofChars, String.ofList_toList,
      List.foldlM_cons]
    exact congrArg _ (funext fun next => ih next)

theorem toBinary64_numberNode_of_not_isFinite {x : Binary64} (h : x.isFinite = false) :
    (numberNode x).toBinary64 = .error (.wrongType .null "f64") := by
  rw [numberNode, h]
  rfl

/-- **A finite number is read where it was written** if it is read with correct rounding. -/
theorem toBinary64_numberNode_eq_ok_iff {x : Binary64} :
    (numberNode x).toBinary64 = .ok x ↔ x.isFinite ∧ x.IsReadExactly := by
  cases hx : x.isFinite with
  | false =>
    rw [toBinary64_numberNode_of_not_isFinite hx]
    simp
  | true =>
    obtain ⟨n, hn, -, hnode⟩ := exists_numberNode_eq hx
    rw [hnode, Node.toBinary64, Binary64.toBinary64_eq_ok_iff_isReadExactly hn hx]
    simp

end Json.Document

/-! ## Sheets with all their fields -/

namespace SheetForm

variable {τ α : Type} {form : SheetForm τ α}

theorem take_head {draft : SheetDraft τ α} (h : draft.head = none) (value : Node) :
    SheetDraft.take form draft form.headName value =
      (form.readHead value).map fun t => { draft with head := some t } := by
  rw [SheetDraft.take, if_pos rfl, h, fill]
  cases form.readHead value <;> rfl

theorem Lawful.take_measure (hlawful : form.Lawful) {draft : SheetDraft τ α} {m : Measure}
    (h : draft.readings.get m = none) (value : Node) :
    SheetDraft.take form draft (form.name m) value = (form.read value).map fun a =>
      { draft with readings := draft.readings.set m (some a) } := by
  rw [SheetDraft.take, if_neg (hlawful.head_ne m), hlawful.measure? m]
  simp only [h, fill]
  cases form.read value <;> rfl

/-- Fields that can be read are taken into their slots, and into no others. -/
theorem Lawful.foldlM_take (hlawful : form.Lawful) (values : Measure → Node)
    {order : List Measure} (hnodup : order.Nodup) (draft : SheetDraft τ α)
    (hnone : ∀ m ∈ order, draft.readings.get m = none)
    (hread : ∀ m ∈ order, ∃ a, form.read (values m) = .ok a) :
    ∃ draft', order.foldlM (fun draft m => SheetDraft.take form draft (form.name m) (values m))
        draft = .ok draft' ∧ draft'.head = draft.head ∧
      (∀ m ∉ order, draft'.readings.get m = draft.readings.get m) ∧
      ∀ m ∈ order, ∃ a, form.read (values m) = .ok a ∧ draft'.readings.get m = some a := by
  induction order generalizing draft with
  | nil => exact ⟨draft, rfl, rfl, fun _ _ => rfl, by simp⟩
  | cons k order ih =>
    obtain ⟨hk, hnodup⟩ := List.nodup_cons.1 hnodup
    obtain ⟨hknone, hnone⟩ := List.forall_mem_cons.1 hnone
    obtain ⟨⟨a, ha⟩, hread⟩ := List.forall_mem_cons.1 hread
    have hlater : ∀ m ∈ order, (draft.readings.set k (some a)).get m = none := by
      intro m hm
      have hne : m ≠ k := by
        rintro rfl
        exact hk hm
      rw [Readings.get_set, if_neg hne, hnone m hm]
    obtain ⟨draft', hfold, hhead, hother, htaken⟩ :=
      ih hnodup { draft with readings := draft.readings.set k (some a) } hlater hread
    refine ⟨draft', ?_, hhead, ?_, ?_⟩
    · rw [List.foldlM_cons, hlawful.take_measure hknone, ha]
      exact hfold
    · intro m hm
      obtain ⟨hne, hm⟩ := not_or.1 (mt List.mem_cons.2 hm)
      rw [hother m hm, Readings.get_set, if_neg hne]
    · refine List.forall_mem_cons.2 ⟨⟨a, ha, ?_⟩, htaken⟩
      rw [hother k hk, Readings.get_set, if_pos rfl]

theorem complete_eq_ok {draft : SheetDraft τ α} {head : τ} {readings : Readings α}
    (hhead : draft.head = some head) (h : ∀ m, draft.readings.get m = some (readings.get m)) :
    draft.complete form = .ok (head, readings) := by
  have hforM : (form.order.forM fun m =>
      (require (form.name m) (draft.readings.get m)).map fun _ => ()) = .ok () := by
    induction form.order with
    | nil => rfl
    | cons m order ih =>
      rw [List.forM_eq_forM, List.forM_cons, h m]
      exact ih
  unfold SheetDraft.complete
  simp only [hhead, hforM]
  simp only [h, require]
  rfl

/-- The document of a sheet: its fields in the declared order. -/
def document (form : SheetForm τ α) (head : Document) (values : Measure → Document) : Document :=
  .object ((form.headName, head) :: form.order.map fun m => (form.name m, values m))

theorem Lawful.hasField_document (hlawful : form.Lawful) (head : Document)
    (values : Measure → Document) (m : Measure) :
    (form.document head values).node.HasField form.names (form.name m) (values m).node := by
  have hmember : (form.name m, values m) ∈ form.order.map fun m => (form.name m, values m) :=
    List.mem_map_of_mem (hlawful.mem_order m)
  exact Document.hasField_object (List.mem_cons_of_mem _ hmember) _

section

variable (hlawful : form.Lawful) {head : Document} {values : Measure → Document} {t : τ}
  (hhead : form.readHead head.node = .ok t)

include hhead

theorem decode_document : form.decode (form.document head values).node =
    form.order.foldlM (fun draft m => SheetDraft.take form draft (form.name m) (values m).node)
      ⟨some t, Readings.ofFn fun _ => none⟩ >>= fun draft => draft.complete form := by
  have htake : SheetDraft.take form SheetDraft.empty form.headName head.node = _ :=
    take_head rfl head.node
  rw [document, Document.node, decode, Node.toStructure, Document.collect_memberNodes,
    List.foldlM_cons, htake, hhead]
  simp only [List.foldlM_map]
  rfl

include hlawful

/-- **A sheet is read from a document that has all its fields.** -/
theorem decode_document_eq_ok {readings : Readings α}
    (h : ∀ m, form.read (values m).node = .ok (readings.get m)) :
    form.decode (form.document head values).node = .ok (t, readings) := by
  obtain ⟨draft, hfold, hdraft, -, htaken⟩ := hlawful.foldlM_take (fun m => (values m).node)
    hlawful.nodup ⟨some t, Readings.ofFn fun _ => none⟩ (by simp) fun m _ => ⟨_, h m⟩
  rw [decode_document hhead, hfold]
  refine complete_eq_ok hdraft fun m => ?_
  obtain ⟨a, ha, hm⟩ := htaken m (hlawful.mem_order m)
  rw [h m, Except.ok.injEq] at ha
  rw [hm, ha]

/-- **A sheet is read just when all its fields are**, and then has what they give. -/
theorem decode_document_eq_ok_iff {u : τ} {readings : Readings α} :
    form.decode (form.document head values).node = .ok (u, readings) ↔
      u = t ∧ ∀ m, form.read (values m).node = .ok (readings.get m) := by
  constructor
  · intro h
    obtain ⟨⟨-, hfirst⟩, hrest⟩ := decode_gives hlawful h
    have hu := hfirst _ (Document.hasField_object List.mem_cons_self _)
    rw [hhead, Except.ok.injEq] at hu
    exact ⟨hu.symm, fun m => (hrest m).2 _ (hlawful.hasField_document head values m)⟩
  · rintro ⟨rfl, hread⟩
    exact decode_document_eq_ok hlawful hhead hread

/-- **The first field that cannot be read** is the fault of a sheet. -/
theorem decode_document_eq_error {before after : List Measure} {m : Measure} {fault : Fault}
    (horder : form.order = before ++ m :: after)
    (hbefore : ∀ k ∈ before, ∃ a, form.read (values k).node = .ok a)
    (h : form.read (values m).node = .error fault) :
    form.decode (form.document head values).node = .error fault := by
  have hnodup := hlawful.nodup
  rw [horder, List.nodup_append] at hnodup
  obtain ⟨draft, hfold, -, hother, -⟩ := hlawful.foldlM_take (fun m => (values m).node)
    hnodup.1 ⟨some t, Readings.ofFn fun _ => none⟩ (by simp) hbefore
  have hm : m ∉ before := by
    intro hm
    exact hnodup.2.2 m hm m List.mem_cons_self rfl
  have hnone : draft.readings.get m = none := by rw [hother m hm, Readings.get_ofFn]
  have htake : SheetDraft.take form draft (form.name m) (values m).node = .error fault := by
    rw [hlawful.take_measure hnone, h]
    rfl
  rw [decode_document hhead, horder, List.foldlM_append, hfold]
  refine bind_eq_error.2 (.inl ?_)
  refine bind_eq_error.2 (.inr ⟨draft, rfl, ?_⟩)
  rw [List.foldlM_cons]
  exact bind_eq_error.2 (.inl htake)

end

end SheetForm

/-! ## Observations -/

namespace Observation

theorem form_lawful : form.Lawful where
  nodup := by decide
  mem_order := by
    intro m
    cases m <;> decide
  injective := by
    intro m k
    cases m <;> cases k <;> decide
  head_ne := by
    intro m
    cases m <;> decide

theorem document_eq (o : Observation) : o.document =
    form.document (.string (o.timestamp.chars 'T')) fun m => .number (o.value m) := rfl

theorem readHead_chars (t : Timestamp) :
    form.readHead (Document.string (t.chars 'T')).node = .ok t.onClock := by
  have hread := t.ofRecord_text
  rw [Timestamp.text] at hread
  simp [form, Document.node, Node.toTimestamp, Quoted.decode_ofChars, bind, Except.bind, hread,
    pure, Except.pure]

/-- An observation is read from the document of another just when a clock shows its timestamp for
the other and each of its measurements is read where the other was written. -/
theorem decode_document_eq_ok_iff {o p : Observation} : decode o.document.node = .ok p ↔
    p.timestamp = o.timestamp.onClock ∧
      ∀ m, (Document.numberNode (o.value m)).toBinary64 = .ok (p.value m) := by
  rw [decode, document_eq, map_eq_ok]
  constructor
  · rintro ⟨⟨timestamp, readings⟩, h, rfl⟩
    exact (SheetForm.decode_document_eq_ok_iff form_lawful (readHead_chars o.timestamp)).1 h
  · intro h
    exact ⟨(p.timestamp, p.readings),
      (SheetForm.decode_document_eq_ok_iff form_lawful (readHead_chars o.timestamp)).2 h, rfl⟩

/-- An observation with a measurement that is not finite is refused at the first such one, as the
numbers before it are read. -/
theorem decode_document_of_not_finite {o : Observation} {m : Measure}
    (h : (o.value m).isFinite = false) (hread : ∀ m, (o.value m).IsReadExactly) :
    decode o.document.node = .error (.wrongType .null "f64") := by
  have hfirst : ∃ k before after, Measure.fieldOrder = before ++ k :: after ∧
      (o.value k).isFinite = false ∧ ∀ j ∈ before, (o.value j).isFinite := by
    cases hfind : Measure.fieldOrder.find? fun k => !(o.value k).isFinite with
    | none =>
      have hm := List.find?_eq_none.1 hfind m (form_lawful.mem_order m)
      simp [h] at hm
    | some k =>
      obtain ⟨hk, before, after, horder, hbefore⟩ := List.find?_eq_some_iff_append.1 hfind
      exact ⟨k, before, after, horder, by simpa using hk, fun j hj => by simpa using hbefore j hj⟩
  obtain ⟨k, before, after, horder, hk, hbefore⟩ := hfirst
  have hnull : form.read (Document.number (o.value k)).node = .error (.wrongType .null "f64") :=
    Document.toBinary64_numberNode_of_not_isFinite hk
  rw [decode, document_eq,
    SheetForm.decode_document_eq_error form_lawful (readHead_chars o.timestamp) horder ?_ hnull]
  · rfl
  · intro j hj
    exact ⟨_, Document.toBinary64_numberNode_eq_ok_iff.2 ⟨hbefore j hj, hread j⟩⟩

theorem hasField_null {o : Observation} {m : Measure} (h : (o.value m).isFinite = false) :
    o.document.node.HasField form.names m.field .null := by
  have hnull : (Document.number (o.value m)).node = .null := by
    rw [Document.node, Document.numberNode, h]
    rfl
  rw [document_eq, ← hnull]
  exact form_lawful.hasField_document _ (fun m => .number (o.value m)) m

/-- **What becomes of an observation in a text.** The text is read as the observation just when its
measurements are finite, each is read with correct rounding, and a clock shows its timestamp. One
that is not finite stands there as `null`, for which the text is refused. Where numbers are read
with correct rounding, no text is read as another observation than the one that it was written for,
as a clock shows it. -/
structure RoundTrips (o : Observation) (text : String) : Prop where
  ofJson_eq_ok_iff : ofJson text = .ok o ↔ (∀ m, (o.value m).isFinite) ∧
    (∀ m, (o.value m).IsReadExactly) ∧ o.timestamp.IsClockTime
  null : ∀ m, (o.value m).isFinite = false →
    (Node.ofText (text.toList.map some)).1.HasField form.names m.field .null
  refused : (∃ m, (o.value m).isFinite = false) → ∃ fault, ofJson text = .error fault ∧
    ((∀ m, (o.value m).IsReadExactly) → fault = .wrongType .null "f64")
  ofJson_eq_ok : (∀ m, (o.value m).isFinite) → (∀ m, (o.value m).IsReadExactly) →
    ofJson text = .ok { o with timestamp := o.timestamp.onClock }
  eq_of_ofJson : (∀ m, (o.value m).IsReadExactly) → ∀ other, ofJson text = .ok other →
    other = { o with timestamp := o.timestamp.onClock }

theorem roundTrips_of_laidOutAs {o : Observation} {text : List Char}
    (h : o.document.LaidOutAs text) : o.RoundTrips (String.ofList text) := by
  have hdecode : ofJson (String.ofList text) = decode o.document.node := by
    rw [ofJson, String.toList_ofList, Document.decode_laidOutAs h]
  have hrefused : (∃ m, (o.value m).isFinite = false) → ∀ other,
      ofJson (String.ofList text) ≠ .ok other := by
    rintro ⟨m, hm⟩ other hother
    rw [hdecode, decode_document_eq_ok_iff] at hother
    have hread := hother.2 m
    rw [Document.toBinary64_numberNode_of_not_isFinite hm] at hread
    cases hread
  have hok : (∀ m, (o.value m).isFinite) → (∀ m, (o.value m).IsReadExactly) →
      ofJson (String.ofList text) = .ok { o with timestamp := o.timestamp.onClock } := by
    intro hfinite hread
    rw [hdecode, decode_document_eq_ok_iff]
    exact ⟨rfl, fun m => Document.toBinary64_numberNode_eq_ok_iff.2 ⟨hfinite m, hread m⟩⟩
  refine ⟨?_, fun m hm => ?_, fun hex => ?_, hok, fun hread other hother => ?_⟩
  · rw [hdecode, decode_document_eq_ok_iff, eq_comm, Timestamp.onClock_eq_iff]
    simp only [Document.toBinary64_numberNode_eq_ok_iff, forall_and]
    exact and_comm.trans and_assoc
  · rw [String.toList_ofList, Document.ofText_laidOutAs h]
    exact hasField_null hm
  · obtain ⟨m, hm⟩ := id hex
    cases hfault : ofJson (String.ofList text) with
    | ok other => exact absurd hfault (hrefused hex other)
    | error fault =>
      refine ⟨fault, rfl, fun hread => ?_⟩
      rw [hdecode, decode_document_of_not_finite hm hread, Except.error.injEq] at hfault
      exact hfault.symm
  · by_cases hfinite : ∀ m, (o.value m).isFinite
    · rw [hok hfinite hread, Except.ok.injEq] at hother
      exact hother.symm
    · exact absurd hother (hrefused (by simpa using hfinite) other)

/-- **Serialised observations read back**, on one line or over several. Numbers of few digits are
read with correct rounding. -/
theorem roundTrips_toJson_and_pretty (o : Observation) :
    o.RoundTrips o.toJson ∧ o.RoundTrips (String.ofList o.document.pretty) ∧
      ∀ m n, IsNumber (o.value m).jsonChars n → n.value.coefficient ≤ 2 ^ 53 →
        n.value.exponent.natAbs ≤ 22 → (o.value m).IsReadExactly := by
  refine ⟨roundTrips_of_laidOutAs o.document.laidOutAs_compact,
    roundTrips_of_laidOutAs (o.document.laidOutAs_prettyAt 0), ?_⟩
  intro m n hn hcoefficient hexponent k hk
  obtain rfl := hk.unique hn
  exact Number.readsNearest_of_le hcoefficient hexponent

/-- A third of a second into a leap second within a minute. -/
def offMinute : Timestamp where
  day := 0
  second := 86164
  nanosecond := 1333333333
  day_mem := by decide
  second_lt := by decide
  nanosecond_lt := by decide

/-- An observation of zeros but for the wind. -/
def windy (timestamp : Timestamp) (wind : Binary64) : Observation where
  timestamp := timestamp
  readings := Readings.ofFn fun m => if m = .windSpeed then wind else .zero

theorem zero_isReadExactly : Binary64.zero.IsReadExactly := by
  have hdigit : Numeral.IsDigits ['0'] := ⟨by simp, by simp [Text.run_cons]⟩
  have hnumber := IsNumber.intro false (.intro ⟨hdigit, .inl rfl⟩ (.point hdigit) .absent)
  intro n hn
  obtain rfl := hn.unique hnumber
  exact Number.readsNearest_of_le (by decide) (by decide)

/-- An observation with a wind of 11.52. -/
def breeze : Observation := windy offMinute.onClock (Decimal.toBinary64 ⟨false, 1152, -2⟩)

theorem roundTrips_toJson_and_pretty_breeze :
    (∀ m, (breeze.value m).isFinite) ∧ (∀ m, (breeze.value m).IsReadExactly) ∧
      breeze.timestamp.IsClockTime ∧ ofJson breeze.toJson = .ok breeze := by
  obtain ⟨htext, -, hfew⟩ := roundTrips_toJson_and_pretty breeze
  have hwind : IsNumber (breeze.value .windSpeed).jsonChars
      ⟨false, ['1', '1'], ['5', '2'], 0, false, .complete⟩ := by
    have hchars : (breeze.value .windSpeed).jsonChars = ['1', '1', '.', '5', '2'] := by
      decide +kernel
    have hwhole : IsWhole ['1', '1'] := ⟨⟨by simp, by simp [Text.run_cons]⟩, .inr (by simp)⟩
    have hfraction : Numeral.IsDigits ['5', '2'] := ⟨by simp, by simp [Text.run_cons]⟩
    rw [hchars]
    exact IsNumber.intro false (.intro hwhole (.point hfraction) .absent)
  have hfinite : ∀ m, (breeze.value m).isFinite := by
    intro m
    cases m <;> decide +kernel
  have hread : ∀ m, (breeze.value m).IsReadExactly := by
    intro m
    cases m with
    | windSpeed => exact hfew .windSpeed _ hwind (by decide) (by decide)
    | _ => exact zero_isReadExactly
  have hclock : breeze.timestamp.IsClockTime := by decide
  exact ⟨hfinite, hread, hclock, htext.ofJson_eq_ok_iff.2 ⟨hfinite, hread, hclock⟩⟩

/-- **Observations of finite numbers can be read as others**: in a leap second within a minute,
though all numbers are read with correct rounding, and by a number of many digits, though a clock
shows the timestamp. -/
theorem exists_ofJson_toJson_ne :
    (∃ o other : Observation, (∀ m, (o.value m).isFinite) ∧ (∀ m, (o.value m).IsReadExactly) ∧
      ofJson o.toJson = .ok other ∧ other ≠ o) ∧
    ∃ o other : Observation, (∀ m, (o.value m).isFinite) ∧ o.timestamp.IsClockTime ∧
      ofJson o.toJson = .ok other ∧ other ≠ o := by
  constructor
  · have hvalue : ∀ m, (windy offMinute .zero).value m = .zero := by
      intro m
      cases m <;> rfl
    have hfinite : ∀ m, ((windy offMinute .zero).value m).isFinite := by
      intro m
      rw [hvalue]
      decide
    have hread : ∀ m, ((windy offMinute .zero).value m).IsReadExactly := by
      intro m
      rw [hvalue]
      exact zero_isReadExactly
    have htext := roundTrips_of_laidOutAs (windy offMinute .zero).document.laidOutAs_compact
    refine ⟨_, _, hfinite, hread, htext.ofJson_eq_ok hfinite hread, fun heq => ?_⟩
    have hclock : offMinute.onClock = offMinute := congrArg Observation.timestamp heq
    exact absurd (Timestamp.onClock_eq_iff.1 hclock) (by decide)
  · have hread : ofJson (windy offMinute.onClock Decimal.seventeenDigits.toBinary64).toJson =
        .ok breeze := by
      decide +kernel
    refine ⟨_, _, ?_, by decide, hread, by decide +kernel⟩
    intro m
    cases m <;> decide +kernel

end Observation

end Fairweather
