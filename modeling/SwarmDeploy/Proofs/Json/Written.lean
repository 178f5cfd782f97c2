import SwarmDeploy.Json.Lexeme
import SwarmDeploy.Json.Value
import SwarmDeploy.Proofs.Text.Utf8

/-! The bytes that write a JSON value.
Blanks may stand in front of items, members, values of members and closing brackets. Both forms of
a value, the compact and the indented one, are such bytes. -/

namespace SwarmDeploy.Json
open SwarmDeploy.Text

def Blanks (bytes : List UInt8) : Prop :=
  ∀ b ∈ bytes, isBlank b = true

def separator (first : Bool) : List UInt8 :=
  if first then [] else [0x2C]

mutual

/-- A value is written by these bytes. -/
inductive Written : Value → List UInt8 → Prop
  | null : Written .null (Utf8.encode nullText)
  | bool (b : Bool) : Written (.bool b) (Utf8.encode (flagText b))
  | int (n : Int) : Written (.int n) (Utf8.encode (integerText n))
  | text (s : String) : Written (.text s) (Utf8.encode (quoted s))
  | list {items : List Value} {bytes : List UInt8} :
    WrittenItems true items bytes → Written (.list items) (0x5B :: bytes)
  | object {members : List (String × Value)} {bytes : List UInt8} :
    WrittenMembers true members bytes → Written (.object members) (0x7B :: bytes)

inductive WrittenItems : Bool → List Value → List UInt8 → Prop
  | nil {first : Bool} {blanks : List UInt8} :
    Blanks blanks → WrittenItems first [] (blanks ++ [0x5D])
  | cons {first : Bool} {v : Value} {items : List Value} {blanks bytes more : List UInt8} :
    Blanks blanks → Written v bytes → WrittenItems false items more →
      WrittenItems first (v :: items) (separator first ++ (blanks ++ (bytes ++ more)))

inductive WrittenMembers : Bool → List (String × Value) → List UInt8 → Prop
  | nil {first : Bool} {blanks : List UInt8} :
    Blanks blanks → WrittenMembers first [] (blanks ++ [0x7D])
  | cons {first : Bool} {key : String} {v : Value} {members : List (String × Value)}
    {blanks blanks' bytes more : List UInt8} :
    Blanks blanks → Blanks blanks' → Written v bytes → WrittenMembers false members more →
      WrittenMembers first ((key, v) :: members) (separator first ++
        (blanks ++ (Utf8.encode (quoted key) ++ 0x3A :: (blanks' ++ (bytes ++ more)))))

end

theorem blanks_nil : Blanks [] := by
  intro b mem
  cases mem

theorem blanks_space : Blanks [0x20] := by
  intro b mem
  rw [List.mem_singleton.1 mem]
  rfl

theorem blanks_newLine (depth : Nat) : Blanks (Utf8.encode (newLine depth)) := by
  intro b mem
  simp only [Utf8.encode, newLine, List.mem_flatMap, List.mem_cons, List.mem_replicate] at mem
  obtain ⟨c, rfl | ⟨-, rfl⟩, mem⟩ := mem
  · rw [List.mem_singleton.1 mem]
    rfl
  · rw [List.mem_singleton.1 mem]
    rfl

section

variable (cs : List Char)

theorem encode_space : Utf8.encode (' ' :: cs) = [0x20] ++ Utf8.encode cs := rfl

theorem encode_comma : Utf8.encode (',' :: cs) = separator false ++ Utf8.encode cs := rfl

theorem encode_colon : Utf8.encode (':' :: cs) = 0x3A :: Utf8.encode cs := rfl

theorem encode_openList : Utf8.encode ('[' :: cs) = 0x5B :: (separator true ++ Utf8.encode cs) :=
  rfl

theorem encode_openObject :
    Utf8.encode ('\x7b' :: cs) = 0x7B :: (separator true ++ Utf8.encode cs) := rfl

end

section

variable {first : Bool} {v : Value} {items : List Value} {members : List (String × Value)}
  {bytes more : List UInt8}

theorem WrittenItems.compact_cons (value : Written v bytes)
    (later : WrittenItems false items more) :
    WrittenItems first (v :: items) (separator first ++ (bytes ++ more)) := by
  simpa only [List.nil_append] using WrittenItems.cons blanks_nil value later

theorem WrittenMembers.compact_cons (key : String) (value : Written v bytes)
    (later : WrittenMembers false members more) :
    WrittenMembers first ((key, v) :: members)
      (separator first ++ (Utf8.encode (quoted key) ++ 0x3A :: (bytes ++ more))) := by
  simpa only [List.nil_append] using WrittenMembers.cons blanks_nil blanks_nil value later

end

mutual

theorem written_compact : (v : Value) → Written v (Utf8.encode v.compact)
  | .null => .null
  | .bool b => .bool b
  | .int n => .int n
  | .text s => .text s
  | .list [] => .list (.nil blanks_nil)
  | .list (v :: vs) => by
    rw [Value.compact, List.cons_append, encode_openList, Utf8.encode_append]
    exact .list (.compact_cons (written_compact v) (writtenItems_compact vs))
  | .object [] => .object (.nil blanks_nil)
  | .object ((k, v) :: ms) => by
    simp only [Value.compact, List.cons_append, List.append_assoc, encode_openObject,
      encode_colon, Utf8.encode_append]
    exact .object (.compact_cons k (written_compact v) (writtenMembers_compact ms))

theorem writtenItems_compact :
    (vs : List Value) → WrittenItems false vs (Utf8.encode (compactItems vs))
  | [] => .nil blanks_nil
  | v :: vs => by
    rw [compactItems, List.cons_append, encode_comma, Utf8.encode_append]
    exact .compact_cons (written_compact v) (writtenItems_compact vs)

theorem writtenMembers_compact :
    (ms : List (String × Value)) → WrittenMembers false ms (Utf8.encode (compactMembers ms))
  | [] => .nil blanks_nil
  | (k, v) :: ms => by
    simp only [compactMembers, List.cons_append, List.append_assoc, encode_comma, encode_colon,
      Utf8.encode_append]
    exact .compact_cons k (written_compact v) (writtenMembers_compact ms)

end

theorem written_toText (v : Value) : Written v (Utf8.ofString v.toText) := by
  rw [Utf8.ofString, Value.toText, String.toList_ofList]
  exact written_compact v

mutual

theorem written_indented : (depth : Nat) → (v : Value) → Written v (Utf8.encode (v.indented depth))
  | _, .null => .null
  | _, .bool b => .bool b
  | _, .int n => .int n
  | _, .text s => .text s
  | _, .list [] => .list (.nil blanks_nil)
  | depth, .list (v :: vs) => by
    simp only [Value.indented, List.cons_append, List.append_assoc, encode_openList,
      Utf8.encode_append]
    exact .list (.cons (blanks_newLine _) (written_indented _ v) (writtenItems_indented depth vs))
  | _, .object [] => .object (.nil blanks_nil)
  | depth, .object ((k, v) :: ms) => by
    simp only [Value.indented, List.cons_append, List.append_assoc, encode_openObject,
      encode_colon, Utf8.encode_append]
    rw [encode_space, Utf8.encode_append]
    exact .object (.cons (blanks_newLine _) blanks_space (written_indented _ v)
      (writtenMembers_indented depth ms))

theorem writtenItems_indented (depth : Nat) :
    (vs : List Value) → WrittenItems false vs (Utf8.encode (indentedItems depth vs))
  | [] => by
    rw [indentedItems, Utf8.encode_append]
    exact .nil (blanks_newLine depth)
  | v :: vs => by
    simp only [indentedItems, List.cons_append, List.append_assoc, encode_comma,
      Utf8.encode_append]
    exact .cons (blanks_newLine _) (written_indented _ v) (writtenItems_indented depth vs)

theorem writtenMembers_indented (depth : Nat) :
    (ms : List (String × Value)) → WrittenMembers false ms (Utf8.encode (indentedMembers depth ms))
  | [] => by
    rw [indentedMembers, Utf8.encode_append]
    exact .nil (blanks_newLine depth)
  | (k, v) :: ms => by
    simp only [indentedMembers, List.cons_append, List.append_assoc, encode_comma, encode_colon,
      Utf8.encode_append]
    rw [encode_space, Utf8.encode_append]
    exact .cons (blanks_newLine _) blanks_space (written_indented _ v)
      (writtenMembers_indented depth ms)

end

end SwarmDeploy.Json
