import Mathlib.Data.List.Infix

/-!
# Comma-separated values

A writer that quotes the fields that need it, and a reader of what it writes. A record ends at a line
feed, at a carriage return, or at both. The writer is of either of two kinds: one that quotes fields with
a carriage return, and one that does not.
-/

namespace IiotMonitoring

structure CsvDialect (α : Type) where
  delimiter : α
  quote : α
  lineFeed : α
  carriageReturn : α
  quotesReturns : Bool
  distinct : [delimiter, quote, lineFeed, carriageReturn].Nodup

variable {α : Type} [DecidableEq α] (dialect : CsvDialect α)

namespace CsvDialect

/-! ### Writing -/

def needsQuotes (field : List α) : Bool :=
  field.any fun item =>
    item = dialect.delimiter || item = dialect.quote || item = dialect.lineFeed ||
      dialect.quotesReturns && item = dialect.carriageReturn

/-- A quote is written twice. -/
def escape (field : List α) : List α :=
  field.flatMap fun item => if item = dialect.quote then [item, item] else [item]

def quoted (field : List α) : List α := dialect.quote :: (dialect.escape field ++ [dialect.quote])

def writeField (field : List α) : List α :=
  if dialect.needsQuotes field then dialect.quoted field else field

def writeFields : List (List α) → List α
  | [] => [dialect.lineFeed]
  | [field] => dialect.writeField field ++ [dialect.lineFeed]
  | field :: fields => dialect.writeField field ++ dialect.delimiter :: writeFields fields

/-- A field that is empty and alone is quoted. -/
def writeRow (fields : List (List α)) : List α :=
  if fields = [[]] then dialect.quoted [] ++ [dialect.lineFeed] else dialect.writeFields fields

/-! ### Reading -/

end CsvDialect

inductive CsvMode where
  | startRecord | afterReturn | startField | inField | inQuoted | quoteInQuoted
  deriving DecidableEq

structure CsvReader (α : Type) where
  mode : CsvMode
  field : List α
  record : List (List α)
  records : List (List (List α))

namespace CsvReader

variable (reader : CsvReader α)

def start : CsvReader α := ⟨.startRecord, [], [], []⟩

def add (item : α) : CsvReader α := { reader with field := reader.field ++ [item] }

def endField : CsvReader α := ⟨.startField, [], reader.record ++ [reader.field], reader.records⟩

def endRecord (mode : CsvMode) : CsvReader α :=
  ⟨mode, [], [], reader.records ++ [reader.record ++ [reader.field]]⟩

def emptyRecord (mode : CsvMode) : CsvReader α := ⟨mode, [], [], reader.records ++ [[]]⟩

/-- An item outside quotes. -/
def unquoted (item : α) : CsvReader α :=
  if item = dialect.lineFeed then reader.endRecord .startRecord
  else if item = dialect.carriageReturn then reader.endRecord .afterReturn
  else if item = dialect.delimiter then reader.endField
  else { reader.add item with mode := .inField }

def firstOfField (item : α) : CsvReader α :=
  if item = dialect.quote then { reader with mode := .inQuoted } else reader.unquoted dialect item

def firstOfRecord (item : α) : CsvReader α :=
  if item = dialect.lineFeed then reader.emptyRecord .startRecord
  else if item = dialect.carriageReturn then reader.emptyRecord .afterReturn
  else reader.firstOfField dialect item

def step (item : α) : CsvReader α :=
  match reader.mode with
  | .startRecord => reader.firstOfRecord dialect item
  | .afterReturn =>
      if item = dialect.lineFeed then { reader with mode := .startRecord }
      else reader.firstOfRecord dialect item
  | .startField => reader.firstOfField dialect item
  | .inField => reader.unquoted dialect item
  | .inQuoted =>
      if item = dialect.quote then { reader with mode := .quoteInQuoted } else reader.add item
  | .quoteInQuoted =>
      if item = dialect.quote then { reader.add item with mode := .inQuoted }
      else reader.unquoted dialect item

/-- The records, with one that the text ends in. -/
def finish : List (List (List α)) :=
  match reader.mode with
  | .startRecord | .afterReturn => reader.records
  | _ => reader.records ++ [reader.record ++ [reader.field]]

end CsvReader

def CsvDialect.read (text : List α) : List (List (List α)) :=
  (text.foldl (CsvReader.step dialect) CsvReader.start).finish

/-! ### Round trip -/

section RoundTrip

variable {dialect} {record : List (List α)} {records : List (List (List α))}

/-- The field does not end where its text does not. -/
def CsvDialect.Keeps (dialect : CsvDialect α) (field : List α) : Prop :=
  dialect.quotesReturns = true ∨ dialect.carriageReturn ∉ field

theorem foldl_escape (field before : List α) :
    (dialect.escape field).foldl (CsvReader.step dialect) ⟨.inQuoted, before, record, records⟩ =
      ⟨.inQuoted, before ++ field, record, records⟩ := by
  induction field generalizing before with
  | nil => rw [List.append_nil]; rfl
  | cons item field ih =>
      rw [List.append_cons, ← ih, CsvDialect.escape, List.flatMap_cons, List.foldl_append]
      apply congrArg (List.foldl _ · _)
      by_cases hquote : item = dialect.quote
      · rw [if_pos hquote]
        simp [CsvReader.step, CsvReader.add, hquote]
      · rw [if_neg hquote]
        simp [CsvReader.step, CsvReader.add, hquote]

theorem foldl_quoted (field : List α) {mode : CsvMode} (hmode : mode = .startRecord ∨ mode = .startField) :
    (dialect.quoted field).foldl (CsvReader.step dialect) ⟨mode, [], record, records⟩ =
      ⟨.quoteInQuoted, field, record, records⟩ := by
  have hdistinct := dialect.distinct
  simp only [List.nodup_cons, List.mem_cons, not_or] at hdistinct
  have hopen : CsvReader.step dialect ⟨mode, [], record, records⟩ dialect.quote =
      ⟨.inQuoted, [], record, records⟩ := by
    rcases hmode with rfl | rfl <;>
      simp [CsvReader.step, CsvReader.firstOfRecord, CsvReader.firstOfField, hdistinct.2.1]
  rw [CsvDialect.quoted, List.foldl_cons, hopen, List.foldl_append, foldl_escape]
  simp [CsvReader.step]

theorem plain_of_not_needsQuotes {field : List α} (h : dialect.needsQuotes field = false)
    (hkeeps : dialect.Keeps field) {item : α} (hitem : item ∈ field) :
    item ≠ dialect.delimiter ∧ item ≠ dialect.quote ∧ item ≠ dialect.lineFeed ∧
      item ≠ dialect.carriageReturn := by
  have hplain := List.any_eq_false.mp h item hitem
  simp only [Bool.or_eq_true, Bool.and_eq_true, decide_eq_true_eq, not_or, not_and] at hplain
  obtain ⟨⟨⟨hdelimiter, hquote⟩, hfeed⟩, hreturn⟩ := hplain
  refine ⟨hdelimiter, hquote, hfeed, ?_⟩
  rcases hkeeps with hquotes | hnone
  · exact hreturn hquotes
  · exact fun hsame => hnone (hsame ▸ hitem)

theorem foldl_plain {field : List α} (hplain : ∀ item ∈ field, item ≠ dialect.delimiter ∧
      item ≠ dialect.quote ∧ item ≠ dialect.lineFeed ∧ item ≠ dialect.carriageReturn) (before : List α) :
    field.foldl (CsvReader.step dialect) ⟨.inField, before, record, records⟩ =
      ⟨.inField, before ++ field, record, records⟩ := by
  induction field generalizing before with
  | nil => rw [List.append_nil]; rfl
  | cons item field ih =>
      obtain ⟨⟨hdelimiter, -, hfeed, hreturn⟩, hrest⟩ := List.forall_mem_cons.mp hplain
      rw [List.append_cons, ← ih hrest, List.foldl_cons]
      apply congrArg (List.foldl _ · _)
      simp [CsvReader.step, CsvReader.unquoted, CsvReader.add, hdelimiter, hfeed, hreturn]

/-- A field has been read, and the reader waits for what ends it. -/
def CsvMode.Waits (mode before : CsvMode) (field : List α) : Prop :=
  mode = .inField ∨ mode = .quoteInQuoted ∨ mode = before ∧ field = []

theorem foldl_writeField {field : List α} (hkeeps : dialect.Keeps field) {mode : CsvMode}
    (hmode : mode = .startRecord ∨ mode = .startField) :
    ∃ mode' : CsvMode, mode'.Waits mode field ∧
      (dialect.writeField field).foldl (CsvReader.step dialect) ⟨mode, [], record, records⟩ =
        ⟨mode', field, record, records⟩ := by
  unfold CsvDialect.writeField
  split_ifs with hneeds
  · exact ⟨.quoteInQuoted, .inr (.inl rfl), foldl_quoted field hmode⟩
  · have hplain := fun item => @plain_of_not_needsQuotes α _ dialect field (Bool.eq_false_iff.mpr hneeds)
      hkeeps item
    cases field with
    | nil => exact ⟨mode, .inr (.inr ⟨rfl, rfl⟩), rfl⟩
    | cons item field =>
        obtain ⟨⟨hdelimiter, hquote, hfeed, hreturn⟩, hrest⟩ := List.forall_mem_cons.mp hplain
        have hfirst : CsvReader.step dialect ⟨mode, [], record, records⟩ item =
            ⟨.inField, [item], record, records⟩ := by
          rcases hmode with rfl | rfl <;>
            simp [CsvReader.step, CsvReader.firstOfRecord, CsvReader.firstOfField, CsvReader.unquoted,
              CsvReader.add, hdelimiter, hquote, hfeed, hreturn]
        refine ⟨.inField, .inl rfl, ?_⟩
        rw [List.foldl_cons, hfirst, foldl_plain hrest, List.singleton_append]

theorem step_delimiter {mode before : CsvMode} {field : List α} (hwaits : mode.Waits before field)
    (hbefore : before = .startRecord ∨ before = .startField) :
    CsvReader.step dialect ⟨mode, field, record, records⟩ dialect.delimiter =
      ⟨.startField, [], record ++ [field], records⟩ := by
  have hdistinct := dialect.distinct
  simp only [List.nodup_cons, List.mem_cons, not_or] at hdistinct
  obtain ⟨⟨hquote, hfeed, hreturn, -⟩, -⟩ := hdistinct
  rcases hwaits with rfl | rfl | ⟨rfl, rfl⟩
  · simp [CsvReader.step, CsvReader.unquoted, CsvReader.endField, hfeed, hreturn]
  · simp [CsvReader.step, CsvReader.unquoted, CsvReader.endField, hquote, hfeed, hreturn]
  · rcases hbefore with rfl | rfl <;>
      simp [CsvReader.step, CsvReader.firstOfRecord, CsvReader.firstOfField, CsvReader.unquoted,
        CsvReader.endField, hquote, hfeed, hreturn]

theorem step_lineFeed {mode before : CsvMode} {field : List α} (hwaits : mode.Waits before field)
    (hbefore : before = .startRecord ∧ field ≠ [] ∨ before = .startField) :
    CsvReader.step dialect ⟨mode, field, record, records⟩ dialect.lineFeed =
      ⟨.startRecord, [], [], records ++ [record ++ [field]]⟩ := by
  have hdistinct := dialect.distinct
  simp only [List.nodup_cons, List.mem_cons, not_or] at hdistinct
  obtain ⟨-, ⟨hquote, -⟩, -⟩ := hdistinct
  rcases hwaits with rfl | rfl | ⟨rfl, rfl⟩
  · simp [CsvReader.step, CsvReader.unquoted, CsvReader.endRecord]
  · simp [CsvReader.step, CsvReader.unquoted, CsvReader.endRecord, Ne.symm hquote]
  · rcases hbefore with ⟨-, hempty⟩ | rfl
    · exact absurd rfl hempty
    · simp [CsvReader.step, CsvReader.firstOfField, CsvReader.unquoted, CsvReader.endRecord, Ne.symm hquote]

theorem foldl_writeFields {fields : List (List α)} (hkeeps : ∀ field ∈ fields, dialect.Keeps field)
    (hfields : fields ≠ []) {mode : CsvMode}
    (hmode : mode = .startRecord ∧ fields ≠ [[]] ∨ mode = .startField) :
    (dialect.writeFields fields).foldl (CsvReader.step dialect) ⟨mode, [], record, records⟩ =
      ⟨.startRecord, [], [], records ++ [record ++ fields]⟩ := by
  have hstart : mode = .startRecord ∨ mode = .startField := hmode.imp_left And.left
  induction fields generalizing mode record with
  | nil => exact absurd rfl hfields
  | cons field fields ih =>
      obtain ⟨hfield, hrest⟩ := List.forall_mem_cons.mp hkeeps
      obtain ⟨mode', hwaits, hread⟩ := @foldl_writeField α _ dialect record records field hfield mode hstart
      cases fields with
      | nil =>
          rw [CsvDialect.writeFields, List.foldl_append, hread]
          apply step_lineFeed hwaits
          exact hmode.imp_left fun h => ⟨h.1, fun hempty => h.2 (hempty ▸ rfl)⟩
      | cons next fields =>
          rw [CsvDialect.writeFields, List.foldl_append, hread, List.foldl_cons,
            step_delimiter hwaits hstart, ih hrest (List.cons_ne_nil _ _) (.inr rfl) (.inr rfl),
            List.append_assoc, List.singleton_append]
          exact List.cons_ne_nil next fields

theorem foldl_writeRow {fields : List (List α)} (hkeeps : ∀ field ∈ fields, dialect.Keeps field) :
    (dialect.writeRow fields).foldl (CsvReader.step dialect) ⟨.startRecord, [], [], records⟩ =
      ⟨.startRecord, [], [], records ++ [fields]⟩ := by
  unfold CsvDialect.writeRow
  split_ifs with halone
  · rw [halone, List.foldl_append, foldl_quoted [] (.inl rfl)]
    exact step_lineFeed (.inr (.inl rfl)) (.inr (rfl : CsvMode.startField = .startField))
  · cases fields with
    | nil => simp [CsvDialect.writeFields, CsvReader.step, CsvReader.firstOfRecord, CsvReader.emptyRecord]
    | cons field fields =>
        exact foldl_writeFields hkeeps (List.cons_ne_nil _ _) (.inl ⟨rfl, halone⟩)

/-- **Rows are read back.** -/
theorem read_rows {rows : List (List (List α))} (hkeeps : ∀ row ∈ rows, ∀ field ∈ row, dialect.Keeps field) :
    dialect.read (rows.flatMap dialect.writeRow) = rows := by
  have hread : ∀ before : List (List (List α)),
      (rows.flatMap dialect.writeRow).foldl (CsvReader.step dialect) ⟨.startRecord, [], [], before⟩ =
        ⟨.startRecord, [], [], before ++ rows⟩ := by
    induction rows with
    | nil => exact fun before => by rw [List.append_nil]; rfl
    | cons row rows ih =>
        intro before
        obtain ⟨hrow, hrest⟩ := List.forall_mem_cons.mp hkeeps
        rw [List.flatMap_cons, List.foldl_append, foldl_writeRow hrow, ih hrest, List.append_assoc,
          List.singleton_append]
  rw [CsvDialect.read, CsvReader.start, hread, List.nil_append]
  rfl

end RoundTrip

end IiotMonitoring
