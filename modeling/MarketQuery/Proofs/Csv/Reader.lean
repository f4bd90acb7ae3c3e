import MarketQuery.Csv

/-!
# A reader of comma-separated values

Records end with a line feed and fields with a comma, both outside quotes. A field that begins with
a quote goes on to the next single quote, and a doubled quote in it stands for one. Any other field
is taken as it is and holds no quote.

* `Reader`, `Reader.step`: what has been read, and one more character; `readRecords?`: a whole text;
* `foldlM_escape`, `foldlM_line`, `foldlM_lines`: what the reader makes of a written field, of a
  record and of several;
* `readRecords?_lines`: written records are read as they were.
-/

namespace MarketQuery.Csv

/-- Where a reader is in a field. -/
inductive Reader.Place
  | start
  /-- In a field that did not begin with a quote. -/
  | bare
  | quoted
  /-- Behind a quote that ends the field or is the first of two. -/
  | closed
  deriving DecidableEq, Repr

/-- What has been read: whole records, the fields of the next one, and the start of a field. -/
structure Reader where
  records : List (List String) := []
  fields : List String := []
  field : List Char := []
  place : Reader.Place := .start
  deriving DecidableEq, Repr

namespace Reader

def endField (r : Reader) : Reader :=
  { r with fields := r.fields ++ [String.ofList r.field], field := [], place := .start }

def endRecord (r : Reader) : Reader :=
  { r.endField with records := r.records ++ [r.endField.fields], fields := [] }

/-- One more character. -/
def step (r : Reader) (c : Char) : Option Reader :=
  match r.place with
  | .quoted =>
    if c = '"' then some { r with place := .closed } else some { r with field := r.field ++ [c] }
  | place =>
    if c = ',' then some r.endField
    else if c = '\n' then some r.endRecord
    else if c = '"' then
      match place with
      | .start => some { r with place := .quoted }
      | .closed => some { r with field := r.field ++ ['"'], place := .quoted }
      | _ => none
    else if place = .closed then none
    else some { r with field := r.field ++ [c], place := .bare }

end Reader

/-- The records of a text in which each ends with a line feed. -/
def readRecords? (cs : List Char) : Option (List (List String)) := do
  let r ← cs.foldlM Reader.step {}
  if r = { records := r.records } then some r.records else none

theorem foldlM_cons_of {r r' : Reader} {c : Char} (h : r.step c = some r') (cs : List Char) :
    (c :: cs).foldlM Reader.step r = cs.foldlM Reader.step r' := by
  rw [List.foldlM_cons, h]
  rfl

theorem foldlM_append_of {r r' : Reader} {cs : List Char} (h : cs.foldlM Reader.step r = some r')
    (cs' : List Char) : (cs ++ cs').foldlM Reader.step r = cs'.foldlM Reader.step r' := by
  rw [List.foldlM_append, h]
  rfl

/-! ## Fields -/

theorem foldlM_bare (r : Reader) {cs : List Char} (h : cs.any isSpecial = false)
    (hr : r.place = .start ∨ r.place = .bare) :
    cs.foldlM Reader.step r =
      some { r with field := r.field ++ cs, place := if cs = [] then r.place else .bare } := by
  induction cs generalizing r with
  | nil => simp
  | cons c cs ih =>
    rw [List.any_cons, Bool.or_eq_false_iff] at h
    have hstep : r.step c = some { r with field := r.field ++ [c], place := .bare } := by
      have hc := h.1
      simp only [isSpecial, Bool.or_eq_false_iff, decide_eq_false_iff_not] at hc
      rcases hr with hp | hp <;> simp [Reader.step, hp, hc]
    rw [foldlM_cons_of hstep, ih _ h.2 (.inr rfl)]
    simp

theorem foldlM_doubleQuotes (r : Reader) (cs : List Char) (hr : r.place = .quoted) :
    (doubleQuotes cs).foldlM Reader.step r = some { r with field := r.field ++ cs } := by
  induction cs generalizing r with
  | nil => simp [doubleQuotes]
  | cons c cs ih =>
    have hpiece : (if c = '"' then ['"', '"'] else [c]).foldlM Reader.step r =
        some { r with field := r.field ++ [c] } := by
      split
      case isTrue h =>
        obtain ⟨records, fields, field, place⟩ := r
        obtain rfl := hr
        simp [Reader.step, h]
      case isFalse h => simp [Reader.step, hr, h]
    rw [doubleQuotes, List.flatMap_cons, foldlM_append_of hpiece, ← doubleQuotes,
      ih { r with field := r.field ++ [c] } hr]
    simp

/-- A written field leaves the reader behind it, where a comma or a line feed may follow. -/
theorem foldlM_escape (r : Reader) (hp : r.place = .start) (hf : r.field = []) (cs : List Char) :
    ∃ place, place ≠ .quoted ∧
      (escape cs).foldlM Reader.step r = some { r with field := cs, place } := by
  unfold escape
  split
  case isTrue =>
    refine ⟨.closed, by simp, ?_⟩
    have hopen : r.step '"' = some { r with place := .quoted } := by simp [Reader.step, hp]
    rw [List.cons_append, foldlM_cons_of hopen,
      foldlM_append_of (foldlM_doubleQuotes { r with place := .quoted } cs rfl)]
    simp [Reader.step, hf]
  case isFalse h =>
    refine ⟨if cs = [] then r.place else .bare, by split <;> simp [hp], ?_⟩
    rw [foldlM_bare r (by simpa using h) (.inl hp), hf, List.nil_append]

theorem step_comma {r : Reader} (h : r.place ≠ .quoted) : r.step ',' = some r.endField := by
  unfold Reader.step
  split
  · contradiction
  · simp

theorem step_lineFeed {r : Reader} (h : r.place ≠ .quoted) : r.step '\n' = some r.endRecord := by
  unfold Reader.step
  split
  · contradiction
  · simp

/-! ## Records -/

/-- The line of a record with the given texts. -/
def line (texts : List String) : List Char :=
  Text.join ',' (texts.map fun s => escape s.toList) ++ ['\n']

theorem line_cons_cons (s t : String) (texts : List String) :
    line (s :: t :: texts) = escape s.toList ++ ',' :: line (t :: texts) := by
  simp [line, Text.join, List.intercalate_cons_cons]

theorem foldlM_line (r : Reader) (hp : r.place = .start) (hf : r.field = []) (s : String)
    (texts : List String) :
    (line (s :: texts)).foldlM Reader.step r =
      some { records := r.records ++ [r.fields ++ s :: texts] } := by
  induction texts generalizing r s with
  | nil =>
    obtain ⟨place, hplace, hfield⟩ := foldlM_escape r hp hf s.toList
    have hline : line [s] = escape s.toList ++ ['\n'] := by simp [line, Text.join]
    have hend := step_lineFeed (r := { r with field := s.toList, place }) hplace
    rw [hline, foldlM_append_of hfield, foldlM_cons_of hend]
    simp [Reader.endRecord, Reader.endField]
  | cons t texts ih =>
    obtain ⟨place, hplace, hfield⟩ := foldlM_escape r hp hf s.toList
    have hend := step_comma (r := { r with field := s.toList, place }) hplace
    rw [line_cons_cons, foldlM_append_of hfield, foldlM_cons_of hend, ih _ rfl rfl]
    simp [Reader.endField]

theorem foldlM_lines {records : List (List String)} (h : ∀ texts ∈ records, texts ≠ [])
    (before : List (List String)) :
    (records.flatMap line).foldlM Reader.step { records := before } =
      some { records := before ++ records } := by
  induction records generalizing before with
  | nil => simp
  | cons texts records ih =>
    obtain ⟨s, rest, rfl⟩ := List.exists_cons_of_ne_nil (h texts List.mem_cons_self)
    rw [List.flatMap_cons, foldlM_append_of (foldlM_line { records := before } rfl rfl s rest),
      ih fun texts ht => h texts (List.mem_cons_of_mem _ ht)]
    simp

/-- **Written records are read as they were.** -/
theorem readRecords?_lines {records : List (List String)} (h : ∀ texts ∈ records, texts ≠ []) :
    readRecords? (records.flatMap line) = some records := by
  rw [readRecords?, foldlM_lines h]
  simp

end MarketQuery.Csv
