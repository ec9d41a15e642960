/-
  Tariff.Proofs.Csv — comma-separated values are read back.

  The reader is that of RFC 4180: a field in quotes may hold commas, line breaks and
  doubled quotes, any other field ends at the first comma or line break and has no quote
  in it. A line ends with a line feed, with or without a carriage return in front of it.
  A line with nothing on it, not even quotes, is a row without fields.
  - `foldlM_field`: a field and what ends it, from the start of the field.
  - `rowsOf_flatMap_row`: any rows but those that an empty field fills.
-/
import Tariff.Report

namespace Tariff.Csv

/-! ## Reading -/

/-- What was read of a field. The characters are kept in reverse. -/
inductive Mode where
  | blank
  | plain (read : List Char)
  | quoted (read : List Char)
  /-- Behind a quote in a quoted field: its end, or the first of two quotes. -/
  | ended (read : List Char)
  /-- Behind the field and a carriage return. -/
  | returned

structure Scan where
  rows : List (List String)
  fields : List String
  mode : Mode

namespace Scan

def start : Scan := ⟨[], [], .blank⟩

def behind (rows : List (List String)) (fields : List String) (c : Char) : Option Scan :=
  if c = ',' then some ⟨rows, fields, .blank⟩
  else if c = '\n' then some ⟨fields.reverse :: rows, [], .blank⟩
  else if c = '\r' then some ⟨rows, fields, .returned⟩
  else none

def text (read : List Char) : String := String.ofList read.reverse

/-- Reads a character. A quote in a field without quotes is refused, and so is anything but
    a comma or a line break behind a field in quotes. -/
def step : Scan → Char → Option Scan
  | ⟨rows, fields, .blank⟩, c =>
    if c = '"' then some ⟨rows, fields, .quoted []⟩
    else if !isSpecial c then some ⟨rows, fields, .plain [c]⟩
    else if fields = [] ∧ c ≠ ',' then behind rows [] c
    else behind rows ("" :: fields) c
  | ⟨rows, fields, .plain read⟩, c =>
    if isSpecial c then behind rows (text read :: fields) c else some ⟨rows, fields, .plain (c :: read)⟩
  | ⟨rows, fields, .quoted read⟩, c =>
    if c = '"' then some ⟨rows, fields, .ended read⟩ else some ⟨rows, fields, .quoted (c :: read)⟩
  | ⟨rows, fields, .ended read⟩, c =>
    if c = '"' then some ⟨rows, fields, .quoted (c :: read)⟩ else behind rows (text read :: fields) c
  | ⟨rows, fields, .returned⟩, c => if c = '\n' then some ⟨fields.reverse :: rows, [], .blank⟩ else none

/-- The rows at the end of the text. The last line may have no line break. -/
def close : Scan → Option (List (List String))
  | ⟨rows, [], .blank⟩ => some rows.reverse
  | ⟨rows, fields, .blank⟩ => some (("" :: fields).reverse :: rows).reverse
  | ⟨rows, fields, .plain read⟩ => some ((text read :: fields).reverse :: rows).reverse
  | ⟨rows, fields, .ended read⟩ => some ((text read :: fields).reverse :: rows).reverse
  | ⟨_, _, .quoted _⟩ => none
  | ⟨_, _, .returned⟩ => none

end Scan

def rowsOf (s : String) : Option (List (List String)) := do (← s.toList.foldlM Scan.step .start).close

def sectionsOf (s : String) : Option (List (List String) × List (List String)) := do
  match (← rowsOf s).splitOn [] with
  | [above, below] => some (above, below)
  | _ => none

/-! ## Fields -/

variable {rows : List (List String)} {done : List String}

theorem text_reverse (cs : List Char) : Scan.text cs.reverse = String.ofList cs := by
  rw [Scan.text, List.reverse_reverse]

theorem foldlM_plain {cs : List Char} (h : ∀ c ∈ cs, isSpecial c = false) (read : List Char) :
    cs.foldlM Scan.step ⟨rows, done, .plain read⟩ = some ⟨rows, done, .plain (cs.reverse ++ read)⟩ := by
  induction cs generalizing read with
  | nil => rfl
  | cons c cs ih =>
    obtain ⟨hc, hcs⟩ := List.forall_mem_cons.mp h
    simp [Scan.step, hc, ih hcs]

/-- A quote is doubled, so none of them ends the field. -/
theorem foldlM_doubled (cs read : List Char) :
    (cs.flatMap fun c => if c = '"' then ['"', '"'] else [c]).foldlM Scan.step ⟨rows, done, .quoted read⟩ =
      some ⟨rows, done, .quoted (cs.reverse ++ read)⟩ := by
  induction cs generalizing read with
  | nil => rfl
  | cons c cs ih =>
    by_cases hc : c = '"'
    · simp [Scan.step, hc, ih]
    · simp [Scan.step, hc, ih]

theorem foldlM_quote (cs : List Char) :
    (quote cs).foldlM Scan.step ⟨rows, done, .blank⟩ = some ⟨rows, done, .ended cs.reverse⟩ := by
  have hopen : Scan.step ⟨rows, done, .blank⟩ '"' = some ⟨rows, done, .quoted []⟩ := rfl
  rw [quote, List.cons_append, List.foldlM_cons, hopen]
  simp [List.foldlM_append, foldlM_doubled, Scan.step]

/-- A field is read up to what ends it. An empty field alone on its line would be none. -/
theorem foldlM_field (s : String) {c : Char} (hc : c = ',' ∨ c = '\n') (h : s = "" → done = [] → c = ',') :
    (field s ++ [c]).foldlM Scan.step ⟨rows, done, .blank⟩ = Scan.behind rows (s :: done) c := by
  have hspecial : isSpecial c = true := by rcases hc with rfl | rfl <;> rfl
  have hquote : c ≠ '"' := by rcases hc with rfl | rfl <;> decide
  unfold field
  split
  · simp [List.foldlM_append, foldlM_quote, Scan.step, hquote, text_reverse]
  · rename_i hplain
    have hcs : ∀ d ∈ s.toList, isSpecial d = false := by simpa using hplain
    -- nothing is read of an empty field, so only here the fields in front of it matter
    rcases hs : s.toList with _ | ⟨d, ds⟩
    · obtain rfl : s = "" := String.toList_eq_nil_iff.mp hs
      have hfirst : ¬(done = [] ∧ c ≠ ',') := fun hd => hd.2 (h rfl hd.1)
      simp [Scan.step, hquote, hspecial, hfirst]
    · obtain ⟨hd, hds⟩ := List.forall_mem_cons.mp (hs ▸ hcs)
      have hunquoted : d ≠ '"' := by
        rintro rfl
        exact absurd hd (by decide)
      have htext : Scan.text (ds.reverse ++ [d]) = s := by
        rw [← List.reverse_cons, text_reverse, ← hs, String.ofList_toList]
      simp [Scan.step, hunquoted, hd, foldlM_plain hds, hspecial, htext]

/-! ## Rows -/

/-- The fields behind those that a line has already. -/
theorem foldlM_fields (s : String) (rest : List String) (h : done = [] → s :: rest ≠ [""]) :
    (fields (s :: rest) ++ ['\n']).foldlM Scan.step ⟨rows, done, .blank⟩ =
      some ⟨(done.reverse ++ s :: rest) :: rows, [], .blank⟩ := by
  -- each field that ends with a comma joins those that are done, and the last one ends the line
  induction rest generalizing s done with
  | nil =>
    have hne : s = "" → done = [] → '\n' = ',' := by
      rintro rfl hdone
      exact absurd rfl (h hdone)
    rw [fields, foldlM_field s (.inr rfl) hne]
    simp [Scan.behind]
  | cons t rest ih =>
    have hcomma : (field s ++ [',']).foldlM Scan.step ⟨rows, done, .blank⟩ = some ⟨rows, s :: done, .blank⟩ :=
      foldlM_field s (.inl rfl) fun _ _ => rfl
    have hsplit : fields (s :: t :: rest) ++ ['\n'] = (field s ++ [',']) ++ (fields (t :: rest) ++ ['\n']) := by
      simp [fields]
    rw [hsplit, List.foldlM_append, hcomma]
    simpa using @ih (s :: done) t (by simp)

theorem foldlM_row {columns : List String} (h : columns ≠ [""]) :
    (row columns).foldlM Scan.step ⟨rows, [], .blank⟩ = some ⟨columns :: rows, [], .blank⟩ := by
  cases columns with
  | nil => rfl
  | cons s rest => exact foldlM_fields s rest fun _ => h

theorem foldlM_flatMap_row {more : List (List String)} (h : ∀ columns ∈ more, columns ≠ [""]) :
    (more.flatMap row).foldlM Scan.step ⟨rows, [], .blank⟩ = some ⟨more.reverse ++ rows, [], .blank⟩ := by
  induction more generalizing rows with
  | nil => rfl
  | cons columns more ih =>
    obtain ⟨hfirst, hmore⟩ := List.forall_mem_cons.mp h
    rw [List.flatMap_cons, List.foldlM_append, foldlM_row hfirst]
    simpa using @ih (columns :: rows) hmore

/-- Rows are read back, whatever their fields hold. -/
theorem rowsOf_flatMap_row {rows : List (List String)} (h : ∀ columns ∈ rows, columns ≠ [""]) :
    rowsOf (String.ofList (rows.flatMap row)) = some rows := by
  rw [rowsOf, String.toList_ofList, Scan.start, foldlM_flatMap_row h]
  simp [Scan.close]

/-- No row is taken for the empty line between two sections. -/
theorem sectionsOf_flatMap_row {above below : List (List String)}
    (h : ∀ columns ∈ above ++ below, columns ≠ [] ∧ columns ≠ [""]) :
    sectionsOf (String.ofList (above.flatMap row ++ '\n' :: below.flatMap row)) = some (above, below) := by
  have hjoin : [[]].intercalate [above, below] = above ++ [] :: below := by simp [List.intercalate]
  have hrows : above.flatMap row ++ '\n' :: below.flatMap row = (above ++ [] :: below).flatMap row := by
    simp [row, fields]
  have hread : ∀ columns ∈ above ++ [] :: below, columns ≠ [""] := by
    intro columns hc
    simp only [List.mem_append, List.mem_cons] at hc h
    rcases hc with hc | rfl | hc
    · exact (h columns (.inl hc)).2
    · simp
    · exact (h columns (.inr hc)).2
  have hempty : ∀ rows ∈ [above, below], [] ∉ rows := by
    intro rows hr hmem
    simp only [List.mem_cons, List.not_mem_nil, or_false] at hr
    rcases hr with rfl | rfl
    · exact (h [] (List.mem_append_left _ hmem)).1 rfl
    · exact (h [] (List.mem_append_right _ hmem)).1 rfl
  have hsplit : (above ++ [] :: below).splitOn [] = [above, below] := by
    rw [← hjoin, List.splitOn_intercalate [] hempty (by simp)]
  rw [sectionsOf, hrows, rowsOf_flatMap_row hread]
  simp [hsplit]

end Tariff.Csv
