import StbEbpf.Lib.CText

/-!
`INSERT` statements with placeholders: how the text of one is taken apart, and which rows it puts into a table when its
placeholders are filled from a list of arguments.
-/

namespace StbEbpf.Sql
open CText

/-! ### Tokens -/

inductive Token where
  | word (text : Bytes)
  | left | right | comma | mark
  | other (byte : UInt8)
  deriving DecidableEq, Repr

/-- Letters, digits, the underscore, and the dot of a qualified name. -/
def isWordByte (byte : UInt8) : Bool :=
  97 ≤ byte && byte ≤ 122 || 65 ≤ byte && byte ≤ 90 || 48 ≤ byte && byte ≤ 57 || byte = 95 || byte = 46

def single (byte : UInt8) : List Token :=
  if byte = 32 ∨ byte = 9 ∨ byte = 10 ∨ byte = 13 then []
  else if byte = 40 then [.left]
  else if byte = 41 then [.right]
  else if byte = 44 then [.comma]
  else if byte = 63 then [.mark]
  else [.other byte]

/-- The word that ends here, if there is one. -/
def closed (word : Bytes) : List Token := if word = [] then [] else [.word word]

/-- The tokens so far and the word that is being read. -/
def scan (state : List Token × Bytes) (byte : UInt8) : List Token × Bytes :=
  if isWordByte byte then (state.1, state.2 ++ [byte]) else (state.1 ++ closed state.2 ++ single byte, [])

def tokens (text : Bytes) : List Token :=
  let state := text.foldl scan ([], [])
  state.1 ++ closed state.2

theorem foldl_scan (text : Bytes) (done : List Token) (word : Bytes) :
    text.foldl scan (done, word) = (done ++ (text.foldl scan ([], word)).1, (text.foldl scan ([], word)).2) := by
  induction text generalizing done word with
  | nil => rw [List.foldl_nil, List.foldl_nil, List.append_nil]
  | cons byte text ih =>
    rw [List.foldl_cons, List.foldl_cons, scan, scan]
    split
    · exact ih done (word ++ [byte])
    · dsimp only
      rw [ih, ih ([] ++ closed word ++ single byte)]
      simp only [List.nil_append, List.append_assoc]

/-- The text ends between two words. -/
def Ends (text : Bytes) : Prop := (text.foldl scan ([], [])).2 = []

instance (text : Bytes) : Decidable (Ends text) := by
  unfold Ends
  infer_instance

theorem tokens_append {first : Bytes} (ends : Ends first) (second : Bytes) :
    tokens (first ++ second) = tokens first ++ tokens second := by
  unfold tokens
  unfold Ends at ends
  generalize state : first.foldl scan ([], []) = found at ends
  obtain ⟨done, word⟩ := found
  subst ends
  rw [List.foldl_append, state, foldl_scan]
  simp [closed]

/-! ### Statements -/

structure Insert where
  table : Bytes
  columns : List Bytes
  tuples : List Nat
  deriving DecidableEq, Repr

/-- The names up to the closing bracket; `wanted` if one has to follow. -/
def readColumns (wanted : Bool) : List Token → Option (List Bytes × List Token)
  | .word name :: rest => if wanted then (readColumns false rest).map fun found => (name :: found.1, found.2) else none
  | .comma :: rest => if wanted then none else readColumns true rest
  | .right :: rest => if wanted then none else some ([], rest)
  | _ => none

/-- Where in the tuples of placeholders. -/
inductive Place where
  | tuple
  | item (before : Nat)
  | behind (count : Nat)
  | next
  deriving DecidableEq, Repr

/-- The number of placeholders in each tuple. -/
def readTuples : Place → List Token → Option (List Nat)
  | .tuple, .left :: rest => readTuples (.item 0) rest
  | .item before, .mark :: rest => readTuples (.behind (before + 1)) rest
  | .behind count, .comma :: rest => readTuples (.item count) rest
  | .behind count, .right :: rest => (readTuples .next rest).map (count :: ·)
  | .next, .comma :: rest => readTuples .tuple rest
  | .next, [] => some []
  | _, _ => none

def readInsert (text : Bytes) : Option Insert :=
  match tokens text with
  | .word insert :: .word into :: .word table :: .left :: rest =>
    if insert = ascii "INSERT" ∧ into = ascii "INTO" then
      match readColumns true rest with
      | some (columns, .word values :: rest) =>
        if values = ascii "VALUES" then (readTuples .tuple rest).map fun tuples => { table, columns, tuples } else none
      | _ => none
    else none
  | _ => none

/-- What stands before the tuples. -/
def heading (table : Bytes) (columns : List Bytes) : List Token :=
  [.word (ascii "INSERT"), .word (ascii "INTO"), .word table, .left] ++
    ((columns.map Token.word).intersperse .comma ++ [.right, .word (ascii "VALUES")])

def placeholders (count : Nat) : List Token := .left :: ((List.replicate count Token.mark).intersperse .comma ++ [.right])

theorem readColumns_names {columns : List Bytes} (some_column : columns ≠ []) (rest : List Token) :
    readColumns true ((columns.map Token.word).intersperse .comma ++ .right :: rest) = some (columns, rest) := by
  induction columns with
  | nil => exact (some_column rfl).elim
  | cons name columns ih =>
    cases columns with
    | nil => rfl
    | cons second columns =>
      have found := ih (List.cons_ne_nil _ _)
      simp only [List.map_cons, List.intersperse_cons_cons, List.cons_append] at found ⊢
      simp only [readColumns, if_true, Bool.false_eq_true, if_false] at found ⊢
      rw [found]
      rfl

theorem readTuples_marks (before count : Nat) (rest : List Token) :
    readTuples (.item before) ((List.replicate (count + 1) Token.mark).intersperse .comma ++ .right :: rest) =
      (readTuples .next rest).map ((before + (count + 1)) :: ·) := by
  induction count generalizing before with
  | zero => rfl
  | succ count ih =>
    have marks := ih (before + 1)
    simp only [List.replicate_succ, List.intersperse_cons_cons, List.cons_append, readTuples] at marks ⊢
    rw [marks, show before + 1 + (count + 1) = before + (count + 1 + 1) by omega]

theorem readTuples_placeholders {count : Nat} (positive : 0 < count) (rest : List Token) :
    readTuples .tuple (placeholders count ++ rest) = (readTuples .next rest).map (count :: ·) := by
  obtain ⟨fewer, rfl⟩ := Nat.exists_eq_add_one.mpr positive
  have marks := readTuples_marks 0 fewer rest
  rw [Nat.zero_add] at marks
  simpa only [placeholders, List.cons_append, List.append_assoc, List.nil_append, readTuples] using marks

/-- Tuples with a comma behind each but the last. -/
theorem readTuples_repeated {count : Nat} (positive : 0 < count) (more : Nat) :
    readTuples .tuple ((List.replicate more (placeholders count ++ [.comma])).flatten ++ placeholders count) =
      some (List.replicate (more + 1) count) := by
  induction more with
  | zero => simpa [readTuples] using readTuples_placeholders positive []
  | succ more ih =>
    rw [List.replicate_succ, List.flatten_cons, List.append_assoc, List.append_assoc, readTuples_placeholders positive,
      List.singleton_append, readTuples, ih]
    rfl

theorem readInsert_values {head tail table : Bytes} {columns : List Bytes} {tuples : List Nat} (ends : Ends head)
    (some_column : columns ≠ []) (headed : tokens head = heading table columns)
    (read : readTuples .tuple (tokens tail) = some tuples) :
    readInsert (head ++ tail) = some { table, columns, tuples } := by
  unfold readInsert
  rw [tokens_append ends, headed, heading]
  simp only [List.cons_append, List.nil_append, List.append_assoc]
  rw [if_pos ⟨trivial, trivial⟩, readColumns_names some_column]
  dsimp only
  rw [if_pos rfl, read]
  rfl

/-! ### Tables -/

variable {V : Type}

/-- The names of the columns, with what a row has in those that are not listed. -/
structure Table (V : Type) where
  name : Bytes
  columns : List (Bytes × V)

/-- Each tuple takes its share, and nothing is left over. -/
def distribute : List Nat → List V → Option (List (List V))
  | [], [] => some []
  | [], _ :: _ => none
  | count :: tuples, args =>
    if count ≤ args.length then (distribute tuples (args.drop count)).map (args.take count :: ·) else none

theorem distribute_flatten (rows : List (List V)) : distribute (rows.map List.length) rows.flatten = some rows := by
  induction rows with
  | nil => rfl
  | cons row rows ih =>
    rw [List.map_cons, List.flatten_cons, distribute, if_pos (by simp), List.drop_left, List.take_left, ih]
    rfl

theorem lookup_zip_of_not_mem {names : List Bytes} {name : Bytes} (absent : name ∉ names) (values : List V) :
    (names.zip values).lookup name = none := by
  rw [List.lookup_eq_none_iff]
  rintro ⟨other, value⟩ member
  have inside : other ∈ names := (List.of_mem_zip member).1
  rw [bne_iff_ne]
  rintro rfl
  exact absent inside

theorem map_lookup_zip {listed : List (Bytes × V)} {values : List V} (distinct : (listed.map Prod.fst).Nodup)
    (full : values.length = listed.length) :
    (listed.map fun column => (((listed.map Prod.fst).zip values).lookup column.1).getD column.2) = values := by
  induction listed generalizing values with
  | nil => exact (List.eq_nil_of_length_eq_zero full).symm
  | cons column listed ih =>
    obtain ⟨value, values, rfl⟩ := List.exists_cons_of_length_eq_add_one full
    obtain ⟨fresh, distinct⟩ := List.nodup_cons.mp distinct
    rw [List.map_cons, List.map_cons, List.zip_cons_cons, List.lookup_cons_self]
    congr 1
    rw [← ih distinct (Nat.succ.inj full)]
    refine List.map_congr_left fun other member => ?_
    have differs : (other.1 == column.1) = false := by
      rw [beq_eq_false_iff_ne]
      intro same
      exact fresh (same ▸ List.mem_map_of_mem member)
    rw [List.lookup_cons, differs, ih distinct (Nat.succ.inj full)]

namespace Table
variable (table : Table V)

/-- Values are paired with the listed columns by their place. -/
def row (columns : List Bytes) (values : List V) : List V :=
  table.columns.map fun column => ((columns.zip values).lookup column.1).getD column.2

/-- Columns that lead the table take the values, and the others their defaults. -/
theorem row_leading {listed others : List (Bytes × V)} (values : List V) (split : table.columns = listed ++ others)
    (distinct : (table.columns.map Prod.fst).Nodup) (full : values.length = listed.length) :
    table.row (listed.map Prod.fst) values = values ++ others.map Prod.snd := by
  rw [split, List.map_append] at distinct
  obtain ⟨leading, _, apart⟩ := List.nodup_append.mp distinct
  rw [row, split, List.map_append]
  congr 1
  · exact map_lookup_zip leading full
  · refine List.map_congr_left fun column member => ?_
    rw [lookup_zip_of_not_mem]
    · rfl
    · intro found
      exact apart _ found _ (List.mem_map_of_mem member) rfl

def insert (text : Bytes) (args : List V) : Option (List (List V)) :=
  match readInsert text with
  | some statement =>
    if statement.table = table.name ∧ (∀ name ∈ statement.columns, name ∈ table.columns.map Prod.fst) ∧
        ∀ count ∈ statement.tuples, count = statement.columns.length then
      (distribute statement.tuples args).map (List.map (table.row statement.columns))
    else none
  | none => none

/-- A statement with as many placeholders as arguments, tuple by tuple. -/
theorem insert_rows {text : Bytes} {columns : List Bytes} (rows : List (List V))
    (read : readInsert text = some { table := table.name, columns, tuples := rows.map List.length })
    (known : ∀ name ∈ columns, name ∈ table.columns.map Prod.fst) (full : ∀ row ∈ rows, row.length = columns.length) :
    table.insert text rows.flatten = some (rows.map (table.row columns)) := by
  have counts : ∀ count ∈ rows.map List.length, count = columns.length := by
    intro count member
    obtain ⟨row, inside, rfl⟩ := List.mem_map.mp member
    exact full row inside
  unfold insert
  rw [read]
  dsimp only
  rw [if_pos ⟨rfl, known, counts⟩, distribute_flatten]
  rfl

end Table

end StbEbpf.Sql
