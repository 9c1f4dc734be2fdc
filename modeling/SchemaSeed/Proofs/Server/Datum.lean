import Mathlib
import SchemaSeed.Proofs.Number.Digits
import SchemaSeed.Proofs.Seed.Writing
import SchemaSeed.Server.Remote

/-!
What cells and parameters stand for, apart from how they are written. A cell of a column that holds
integers, texts, identifiers or bytes is read as a value; the value is written into a statement or
bound to it; and what the server finds there stands for the same as the cell, in a column of the same
type.
-/

set_option autoImplicit false
set_option relaxedAutoImplicit false

namespace SchemaSeed.Server

open SchemaSeed.Sql SchemaSeed.Number SchemaSeed.Seed

/-- What a cell or a parameter stands for. A decimal number stands for its text. -/
inductive Datum where
  | integer (n : Int)
  | text (s : String)
  | uuid (u : Uuid)
  | bytes (bs : List UInt8)
  deriving DecidableEq

/-- What a column is made to hold. -/
inductive Kind where
  | integer (least most : Int)
  | text
  | uuid
  | bytes
  deriving DecidableEq

namespace Kind

/-- The integers of some bits, one of them for the sign. -/
def signed (bits : Nat) : Kind := .integer (-(twoTo (bits - 1) : Int)) (twoTo (bits - 1) - 1)

/-- The integers of some bits without a sign. -/
def unsigned (bits : Nat) : Kind := .integer 0 (twoTo bits - 1)

/-- What the columns of a type hold, by the upper-case name of the type. Truth values, floating-point
numbers, times and JSON are left out; every other type holds text. -/
def ofType? : Dialect → String → Option Kind
  | .postgres, type =>
    match type with
    | "INT2" => some (.signed 16)
    | "INT4" => some (.signed 32)
    | "INT8" => some (.signed 64)
    | "UUID" => some .uuid
    | "BYTEA" => some .bytes
    | _ =>
      if ["BOOL", "FLOAT4", "FLOAT8", "TIMESTAMPTZ", "TIMESTAMP", "DATE", "TIME", "JSON",
        "JSONB"].contains type then none else some .text
  | .mysql, type =>
    match type with
    | "TINYINT" => some (.signed 8)
    | "SMALLINT" => some (.signed 16)
    | "MEDIUMINT" => some (.signed 24)
    | "INT" => some (.signed 32)
    | "BIGINT" => some (.signed 64)
    | "TINYINT UNSIGNED" => some (.unsigned 8)
    | "SMALLINT UNSIGNED" => some (.unsigned 16)
    | "MEDIUMINT UNSIGNED" => some (.unsigned 24)
    | "INT UNSIGNED" => some (.unsigned 32)
    | "BIGINT UNSIGNED" => some (.unsigned 64)
    | "BINARY" => some .bytes
    | "VARBINARY" => some .bytes
    | "TINYBLOB" => some .bytes
    | "BLOB" => some .bytes
    | "MEDIUMBLOB" => some .bytes
    | "LONGBLOB" => some .bytes
    | _ =>
      if ["BOOLEAN", "FLOAT", "DOUBLE", "TIMESTAMP", "DATETIME", "DATE", "TIME",
        "JSON"].contains type then none else some .text

/-- What a text stands for in a column. -/
def read? (s : String) : Kind → Option Datum
  | .integer least most => (intWithin? least most s).map .integer
  | .text => some (.text s)
  | .uuid => (Uuid.ofText? s).map .uuid
  | .bytes => (bytesOfHex? s).map .bytes

/-- What a datum becomes when it is put into a column, if it can be put there. A text becomes what it
spells; in one dialect it also becomes its bytes. -/
def take? (d : Dialect) : Kind → Datum → Option Datum
  | .integer least most, .integer n =>
    if least ≤ n ∧ n ≤ most then some (.integer n) else none
  | .integer least most, .text s => (intWithin? least most s).map .integer
  | .text, .text s => some (.text s)
  | .uuid, .uuid u => some (.uuid u)
  | .uuid, .text s => (Uuid.ofText? s).map .uuid
  | .bytes, .bytes bs => some (.bytes bs)
  | .bytes, .text s =>
    match d with
    | .postgres => none
    | .mysql => some (.bytes s.toUTF8.data.toList)
  | _, _ => none

end Kind

/-- A piece of a statement as a server takes it: a token, or the parameter that stands in the place
of a placeholder. -/
inductive Piece where
  | token (t : Token)
  | parameter (p : Parameter)

/-- What a piece stands for by itself: a literal for its text, a parameter for what its type makes of
its text. -/
def Piece.datum? (d : Dialect) : Piece → Option Datum
  | .token (.quoted .literal s) => some (.text s)
  | .token _ => none
  | .parameter p => do (← Kind.ofType? d p.type).read? (← p.text)

/-- What stands in a column, or a missing value. -/
abbrev Content := Option (Kind × Datum)

/-- A piece stands for the content of a column, where that column takes it. A missing value is told
by the word for it. -/
def Piece.Carries (d : Dialect) (piece : Piece) : Content → Prop
  | none => piece = .token (.word "NULL")
  | some (kind, datum) => (piece.datum? d).bind (kind.take? d) = some datum

/-- Puts the parameters of a statement in the places of the placeholders, in order; there must be
just as many. -/
def place : List Token → List Parameter → Option (List Piece)
  | [], [] => some []
  | [], _ :: _ => none
  | t :: rest, params =>
    match t, params with
    | .parameter _, [] => none
    | .parameter _, p :: others => (.parameter p :: ·) <$> place rest others
    | t, params => (.token t :: ·) <$> place rest params

/-- The pieces of a statement that a server of a dialect got. -/
def ReceivedStatement.pieces? (d : Dialect) (s : ReceivedStatement) : Option (List Piece) :=
  (tokens? d s.sql).bind fun tokens => place tokens s.parameters

/-- What a server gets for a part of a statement. -/
def sent (d : Dialect) : Lexeme → Piece
  | .token t => .token t
  | .value v => .parameter (.ofValue d v)

/-- What a server gets for a statement that is filled with values. -/
theorem place_of_fill {d : Dialect} {tokens : List Token} {params : List Value}
    {lexemes : List Lexeme} (filled : fill tokens params = some lexemes) :
    place tokens (params.map (Parameter.ofValue d)) = some (lexemes.map (sent d)) := by
  induction tokens generalizing params lexemes with
  | nil =>
    cases params with
    | nil =>
      obtain rfl : [] = lexemes := Option.some.inj filled
      rfl
    | cons v rest => cases filled
  | cons t rest ih =>
    cases t with
    | parameter number =>
      cases params with
      | nil => cases filled
      | cons v others =>
        obtain ⟨more, whole, rfl⟩ := Option.map_eq_some_iff.mp filled
        change (.parameter (.ofValue d v) :: ·) <$> place rest (others.map (Parameter.ofValue d)) = _
        rw [ih whole]
        rfl
    | _ =>
      all_goals
        cases params <;>
          obtain ⟨more, whole, rfl⟩ := Option.map_eq_some_iff.mp filled <;>
          exact Option.map_eq_some_iff.mpr ⟨_, ih whole, rfl⟩

section

variable {d : Dialect} {kind : Kind} {datum : Datum}

/-- The piece by which a value reaches a server, when its declared type is dropped. -/
def Piece.ofValue (d : Dialect) (v : Value) : Piece := sent d (operandLexeme d v.toUntyped)

theorem carries_null : (Piece.ofValue d .null).Carries d none := rfl

/-- A piece stands for what its column makes of what it stands for by itself. -/
theorem Piece.Carries.of_datum? {piece : Piece} {own : Datum} (itself : piece.datum? d = some own)
    (taken : kind.take? d own = some datum) : piece.Carries d (some (kind, datum)) := by
  change (piece.datum? d).bind (kind.take? d) = some datum
  rw [itself]
  exact taken

private theorem datum?_int32 {n : Int} (least : -(twoTo 31 : Int) ≤ n) (most : n ≤ twoTo 31 - 1) :
    (Piece.ofValue d (.int32 n)).datum? d = some (.integer n) := by
  have read := congrArg (Option.map Datum.integer) (intWithin?_toString least most)
  cases d <;> exact read

private theorem datum?_int64 {n : Int} (least : -(twoTo 63 : Int) ≤ n) (most : n ≤ twoTo 63 - 1) :
    (Piece.ofValue d (.int64 n)).datum? d = some (.integer n) := by
  have read := congrArg (Option.map Datum.integer) (intWithin?_toString least most)
  cases d <;> exact read

private theorem datum?_text (s : String) :
    (Piece.ofValue d (.text s)).datum? d = some (.text s) := by
  cases d <;> rfl

private theorem datum?_uuid (u : Uuid) :
    (Piece.ofValue .postgres (.uuid u)).datum? .postgres = some (.uuid u) :=
  congrArg (Option.map Datum.uuid) (Uuid.ofText?_print u)

private theorem datum?_bytes (bs : List UInt8) :
    (Piece.ofValue d (.bytes bs)).datum? d = some (.bytes bs) := by
  have read := congrArg (Option.map Datum.bytes) (bytesOfHex?_printBytes bs)
  cases d <;> exact read

/-- A value that was read, by whichever piece it reaches a server, stands for what the cell holds. -/
def Survives (d : Dialect) (kind : Kind) (datum : Datum) (read : Option Value) : Prop :=
  ∃ v, read = some v ∧ (Piece.ofValue d v).Carries d (some (kind, datum))

section

variable {s : String} {bits : Nat}

private theorem survives_int32 (narrow : twoTo (bits - 1) ≤ twoTo 31)
    (read : (Kind.signed bits).read? s = some datum) :
    Survives d (.signed bits) datum (Cell.int32? bits s) := by
  obtain ⟨n, value, rfl⟩ := Option.map_eq_some_iff.mp read
  obtain ⟨least, most⟩ := bounds_of_intWithin? value
  exact ⟨.int32 n, congrArg (Option.map Value.int32) value,
    .of_datum? (datum?_int32 (by omega) (by omega)) (if_pos ⟨least, most⟩)⟩

private theorem survives_int64 (narrow : twoTo (bits - 1) ≤ twoTo 63)
    (read : (Kind.signed bits).read? s = some datum) :
    Survives d (.signed bits) datum (Cell.int64? bits s) := by
  obtain ⟨n, value, rfl⟩ := Option.map_eq_some_iff.mp read
  obtain ⟨least, most⟩ := bounds_of_intWithin? value
  exact ⟨.int64 n, congrArg (Option.map Value.int64) value,
    .of_datum? (datum?_int64 (by omega) (by omega)) (if_pos ⟨least, most⟩)⟩

/-- What a signed value does not hold is kept as its digits, which the column reads. -/
private theorem survives_unsigned (read : (Kind.unsigned bits).read? s = some datum) :
    Survives d (.unsigned bits) datum (Cell.unsigned? bits s) := by
  obtain ⟨n, value, rfl⟩ := Option.map_eq_some_iff.mp read
  obtain ⟨least, most⟩ := bounds_of_intWithin? value
  refine ⟨_, congrArg (Option.map _) value, ?_⟩
  dsimp only
  split
  · rename_i small
    have negative : -(twoTo 63 : Int) ≤ 0 := by decide
    exact .of_datum? (datum?_int64 (by omega) (by omega)) (if_pos ⟨least, most⟩)
  · exact .of_datum? (datum?_text _)
      (congrArg (Option.map Datum.integer) (intWithin?_toString least most))

private theorem survives_uuid (read : Kind.uuid.read? s = some datum) :
    Survives .postgres .uuid datum ((Uuid.ofText? s).map .uuid) := by
  obtain ⟨u, value, rfl⟩ := Option.map_eq_some_iff.mp read
  exact ⟨.uuid u, congrArg (Option.map Value.uuid) value, .of_datum? (datum?_uuid u) rfl⟩

private theorem survives_bytes (read : Kind.bytes.read? s = some datum) :
    Survives .postgres .bytes datum ((bytesOfHex? s).map .bytes) := by
  obtain ⟨bs, value, rfl⟩ := Option.map_eq_some_iff.mp read
  exact ⟨.bytes bs, congrArg (Option.map Value.bytes) value, .of_datum? (datum?_bytes bs) rfl⟩

/-- Bytes that are read as a text are the bytes of that text. -/
private theorem survives_textOrBytes (read : Kind.bytes.read? s = some datum) :
    Survives .mysql .bytes datum ((bytesOfHex? s).map Cell.textOrBytes) := by
  obtain ⟨bs, value, rfl⟩ := Option.map_eq_some_iff.mp read
  refine ⟨Cell.textOrBytes bs, congrArg (Option.map Cell.textOrBytes) value, ?_⟩
  unfold Cell.textOrBytes
  split
  · rename_i text decoded
    have same : text.toUTF8.data.toList = bs := by
      unfold String.fromUTF8? at decoded
      split at decoded
      · obtain rfl := Option.some.inj decoded
        rfl
      · cases decoded
    refine .of_datum? (datum?_text text) ?_
    exact congrArg (fun bs => some (Datum.bytes bs)) same
  · exact .of_datum? (datum?_bytes bs) rfl

private theorem survives_text (read : Kind.text.read? s = some datum) :
    Survives d .text datum (some (.text s)) := by
  obtain rfl : Datum.text s = datum := Option.some.inj read
  exact ⟨.text s, rfl, .of_datum? (datum?_text s) rfl⟩

end

private theorem postgres_survives {name s : String}
    (known : Kind.ofType? .postgres name = some kind) (read : kind.read? s = some datum) :
    Survives .postgres kind datum (Cell.postgresValue? name s) := by
  unfold Kind.ofType? at known
  dsimp only at known
  split at known
  · cases known
    exact survives_int32 (by decide) read
  · cases known
    exact survives_int32 (by decide) read
  · cases known
    exact survives_int64 (by decide) read
  · cases known
    exact survives_uuid read
  · cases known
    exact survives_bytes read
  · split at known
    · cases known
    · cases known
      -- The names that are read in another way are those above and those left out.
      unfold Cell.postgresValue?
      split <;> simp_all [survives_text]

private theorem mysql_survives {name s : String}
    (known : Kind.ofType? .mysql name = some kind) (read : kind.read? s = some datum) :
    Survives .mysql kind datum (Cell.mysqlValue? name s) := by
  unfold Kind.ofType? at known
  dsimp only at known
  split at known
  case h_17 =>
    split at known
    · cases known
    · cases known
      unfold Cell.mysqlValue?
      split <;> simp_all [survives_text]
  all_goals cases known
  case h_1 | h_2 | h_3 | h_4 | h_5 => exact survives_int64 (by decide) read
  case h_6 | h_7 | h_8 | h_9 | h_10 => exact survives_unsigned read
  all_goals exact survives_textOrBytes read

/-- A cell is read, and the value that was read stands for what the cell holds when it is written
back. -/
theorem cell_survives {type s : String} (known : Kind.ofType? d (Text.uppercase type) = some kind)
    (read : kind.read? s = some datum) :
    Survives d kind datum (Cell.value? d type (some s)) := by
  cases d with
  | postgres => exact postgres_survives known read
  | mysql => exact mysql_survives known read

end

end SchemaSeed.Server
