/-!
# Runs of characters

Readers take the longest run of characters of a kind: blanks, letters, digits. A text that is put
together from such runs comes apart in the same way when no character of the kind stands behind
each of them (`Stops`), and then in no other way (`run_unique`).
-/

namespace Fairweather

namespace Text

/-- All characters are of a kind. -/
def Run (kind : Char → Bool) (text : List Char) : Prop := ∀ c ∈ text, kind c

/-- The next character, if there is one, is not of a kind. -/
def Stops (kind : Char → Bool) (text : List Char) : Prop := ∀ c ∈ text.head?, kind c = false

variable {kind : Char → Bool} {c : Char} {run rest text : List Char}

@[simp] theorem run_nil : Run kind [] := by simp [Run]

@[simp] theorem run_cons : Run kind (c :: text) ↔ kind c ∧ Run kind text := by simp [Run]

theorem run_takeWhile : Run kind (text.takeWhile kind) := by
  induction text with
  | nil => exact run_nil
  | cons c text ih =>
    rw [List.takeWhile_cons]
    split
    · next h => exact run_cons.2 ⟨h, ih⟩
    · exact run_nil

theorem run_reverse (h : Run kind text) : Run kind text.reverse :=
  fun c hc => h c (List.mem_reverse.1 hc)

@[simp] theorem stops_nil : Stops kind [] := by simp [Stops]

@[simp] theorem stops_cons : Stops kind (c :: text) ↔ kind c = false := by simp [Stops]

theorem stops_dropWhile : Stops kind (text.dropWhile kind) := by
  intro c hc
  have hhead := List.head?_dropWhile_not kind text
  rwa [hc] at hhead

theorem stops_append (htext : Stops kind text) (hrest : Stops kind rest) :
    Stops kind (text ++ rest) := by
  cases text with
  | nil => exact hrest
  | cons c text => exact stops_cons.2 (stops_cons.1 htext)

theorem stops_of_append (h : Stops kind (text ++ rest)) : Stops kind text := by
  cases text with
  | nil => exact stops_nil
  | cons c text => exact stops_cons.2 (stops_cons.1 h)

theorem stops_run_append {other : Char → Bool} (hrun : Run other run)
    (hother : ∀ c, other c → kind c = false) (hrest : Stops kind rest) :
    Stops kind (run ++ rest) := by
  cases run with
  | nil => exact hrest
  | cons c run => exact stops_cons.2 (hother c (run_cons.1 hrun).1)

theorem takeWhile_run (hrun : Run kind run) (hrest : Stops kind rest) :
    (run ++ rest).takeWhile kind = run := by
  induction run with
  | nil =>
    cases rest with
    | nil => rfl
    | cons c rest => rw [List.nil_append, List.takeWhile_cons_of_neg (by simpa using hrest)]
  | cons c run ih =>
    rw [run_cons] at hrun
    rw [List.cons_append, List.takeWhile_cons_of_pos hrun.1, ih hrun.2]

theorem dropWhile_run (hrun : Run kind run) (hrest : Stops kind rest) :
    (run ++ rest).dropWhile kind = rest := by
  have h : (run ++ rest).takeWhile kind ++ (run ++ rest).dropWhile kind = run ++ rest :=
    List.takeWhile_append_dropWhile
  rw [takeWhile_run hrun hrest] at h
  exact List.append_cancel_left h

theorem takeWhile_append_run {other : Char → Bool} (hrun : Run other run)
    (hother : ∀ c, other c → kind c = false) :
    (text ++ run).takeWhile kind = text.takeWhile kind ∧
      (text ++ run).dropWhile kind = text.dropWhile kind ++ run := by
  have htake : Run kind (text.takeWhile kind) := run_takeWhile
  have hstops : Stops kind (text.dropWhile kind ++ run) := by
    have hbehind : Stops kind (run ++ []) := stops_run_append hrun hother stops_nil
    rw [List.append_nil] at hbehind
    exact stops_append stops_dropWhile hbehind
  have htext : text.takeWhile kind ++ (text.dropWhile kind ++ run) = text ++ run := by
    rw [← List.append_assoc, List.takeWhile_append_dropWhile]
  rw [← htext]
  exact ⟨takeWhile_run htake hstops, dropWhile_run htake hstops⟩

theorem run_unique {run' rest' : List Char} (hrun : Run kind run) (hrest : Stops kind rest)
    (hrun' : Run kind run') (hrest' : Stops kind rest') (h : run ++ rest = run' ++ rest') :
    run = run' ∧ rest = rest' := by
  have htake := takeWhile_run hrun hrest
  have hdrop := dropWhile_run hrun hrest
  rw [h, takeWhile_run hrun' hrest'] at htake
  rw [h, dropWhile_run hrun' hrest'] at hdrop
  exact ⟨htake.symm, hdrop.symm⟩

end Text

end Fairweather
