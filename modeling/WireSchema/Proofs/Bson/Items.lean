import WireSchema.Bson.Sink
import WireSchema.Proofs.Bson.Inside

namespace WireSchema.Bson

open Cursor (place)

inductive Item where
  | bool (flag : Bool)
  | byte (value : UInt8)
  | raw (value : List UInt8)
  | int32 (number : Int32)
  | int64 (number : Int64)
  | uint64 (number : UInt64)
  | double (number : Double)
  | cstring (text : String)
  | string (text : String)
deriving DecidableEq

-- A typed read is told nothing of what it will give, but for a count of bytes.
inductive Read where
  | bool
  | byte
  | raw (count : Nat)
  | fixed (count : Nat)
  | int32
  | int64
  | uint64
  | double
  | cstring
  | string
deriving DecidableEq

def Item.write (s : Sink) : Item → Sink
  | .bool flag => s.writeBool flag
  | .byte value => s.writeByte value
  | .raw value => s.write value
  | .int32 number => s.writeInt32 number
  | .int64 number => s.writeInt64 number
  | .uint64 number => s.writeUInt64 number
  | .double number => s.writeDouble number
  | .cstring text => s.writeCString text
  | .string text => s.writeString text

def Item.read : Item → Read
  | .bool _ => .bool
  | .byte _ => .byte
  | .raw value => .raw value.length
  | .int32 _ => .int32
  | .int64 _ => .int64
  | .uint64 _ => .uint64
  | .double _ => .double
  | .cstring _ => .cstring
  | .string _ => .string

def Item.Faithful : Item → Prop
  | .cstring text => NulFree text
  | _ => True

instance : (i : Item) → Decidable i.Faithful
  | .cstring text => inferInstanceAs (Decidable (NulFree text))
  | .bool _ | .byte _ | .raw _ | .int32 _ | .int64 _ | .uint64 _ | .double _ | .string _ =>
    isTrue trivial

def Item.bytes (i : Item) : List UInt8 :=
  (i.write .empty).bytes

theorem Item.write_bytes (i : Item) (s : Sink) : i.write s = ⟨s.bytes ++ i.bytes⟩ := by
  cases i <;> rfl

namespace Read

def run (c : Cursor) : Read → Attempt Item
  | bool => Cursor.mapRead .bool c.readBool
  | byte => Cursor.mapRead .byte c.readByte
  | raw count => Cursor.mapRead .raw (c.readBytes count)
  | fixed count => Cursor.mapRead (fun value => .raw value.val) (c.readFixed count)
  | int32 => Cursor.mapRead .int32 c.readInt32
  | int64 => Cursor.mapRead .int64 c.readInt64
  | uint64 => Cursor.mapRead .uint64 c.readUInt64
  | double => Cursor.mapRead .double c.readDouble
  | cstring => Cursor.mapRead .cstring c.readCString
  | string => Cursor.mapRead .string c.readString

def runAll : List Read → Cursor → Attempt (List Item)
  | [], c => (some [], c)
  | r :: reads, c =>
    match r.run c with
    | (none, c) => (none, c)
    | (some i, c) => Cursor.mapRead (i :: ·) (runAll reads c)

def follow (reads : List Read) (c : Cursor) : Cursor :=
  reads.foldl (fun c r => (r.run c).2) c

end Read

theorem Cursor.mapRead_injective {α β : Type} {f : α → β} (injective : f.Injective)
    {attempt : Attempt α} {a : α} {after : Cursor} :
    mapRead f attempt = (some (f a), after) ↔ attempt = (some a, after) := by
  rw [mapRead_exact]
  constructor
  · intro parts
    obtain ⟨b, read, same⟩ := parts
    rwa [← injective same]
  · intro read
    exact ⟨a, read, rfl⟩

theorem Item.run_exact {i : Item} (small : i.bytes.length < 2 ^ 31) {c after : Cursor} :
    i.read.run c = (some i, after) ↔ i.Faithful ∧ c.Moves i.bytes after := by
  have kept {p q : Prop} (faithful : p) : q ↔ p ∧ q := (and_iff_right faithful).symm
  cases i with
  | bool flag =>
    rw [Item.read, Read.run, Cursor.mapRead_injective fun _ _ => bool.inj, Cursor.readBool_exact]
    exact kept trivial
  | byte value =>
    rw [Item.read, Read.run, Cursor.mapRead_injective fun _ _ => byte.inj, Cursor.readByte_exact]
    exact kept trivial
  | raw value =>
    rw [Item.read, Read.run, Cursor.mapRead_injective fun _ _ => raw.inj, Cursor.readBytes_exact]
    exact and_congr_left fun _ => iff_of_true rfl trivial
  | int32 number =>
    rw [Item.read, Read.run, Cursor.mapRead_injective fun _ _ => int32.inj, Cursor.readInt32_exact]
    exact kept trivial
  | int64 number =>
    rw [Item.read, Read.run, Cursor.mapRead_injective fun _ _ => int64.inj, Cursor.readInt64_exact]
    exact kept trivial
  | uint64 number =>
    rw [Item.read, Read.run, Cursor.mapRead_injective fun _ _ => uint64.inj,
      Cursor.readUInt64_exact]
    exact kept trivial
  | double number =>
    rw [Item.read, Read.run, Cursor.mapRead_injective fun _ _ => double.inj,
      Cursor.readDouble_exact]
    exact kept trivial
  | cstring text =>
    rw [Item.read, Read.run, Cursor.mapRead_injective fun _ _ => cstring.inj,
      Cursor.readCString_exact]
    rfl
  | string text =>
    rw [Item.read, Read.run, Cursor.mapRead_injective fun _ _ => string.inj,
      Cursor.readString_exact]
    have short : (textBytes text).length + 1 < 2 ^ 31 := by
      have whole : (stringBytes text).length < 2 ^ 31 := small
      rw [stringBytes, cstringBytes, List.length_append, List.length_append,
        List.length_singleton] at whole
      omega
    exact and_congr_left fun _ => iff_of_true short trivial

theorem Read.runAll_cons {i : Item} {items : List Item} {reads : List Read} {r : Read}
    {c after : Cursor} :
    runAll (r :: reads) c = (some (i :: items), after) ↔
      ∃ next, r.run c = (some i, next) ∧ runAll reads next = (some items, after) := by
  rw [runAll]
  obtain ⟨result, place⟩ := r.run c
  cases result with
  | none => simp
  | some j =>
    dsimp only
    rw [Cursor.mapRead_exact]
    constructor
    · intro parts
      obtain ⟨others, read, same⟩ := parts
      cases same
      exact ⟨place, rfl, read⟩
    · intro parts
      obtain ⟨next, first, read⟩ := parts
      cases first
      exact ⟨items, read, rfl⟩

theorem Item.runAll_exact {items : List Item} (small : (items.flatMap bytes).length < 2 ^ 31)
    {c after : Cursor} :
    Read.runAll (items.map read) c = (some items, after) ↔
      (∀ i ∈ items, i.Faithful) ∧ c.Moves (items.flatMap bytes) after := by
  induction items generalizing c with
  | nil =>
    rw [List.flatMap_nil, Cursor.moves_nil]
    simp [Read.runAll]
  | cons i items ih =>
    rw [List.flatMap_cons, List.length_append] at small
    rw [List.map_cons, Read.runAll_cons, List.forall_mem_cons, List.flatMap_cons,
      Cursor.moves_append]
    constructor
    · intro parts
      obtain ⟨next, first, others⟩ := parts
      obtain ⟨faithful, moved⟩ := (run_exact (by omega)).mp first
      obtain ⟨each, further⟩ := (ih (by omega)).mp others
      exact ⟨⟨faithful, each⟩, next, moved, further⟩
    · intro parts
      obtain ⟨⟨faithful, each⟩, next, moved, further⟩ := parts
      have first := (run_exact (by omega)).mpr ⟨faithful, moved⟩
      exact ⟨next, first, (ih (by omega)).mpr ⟨each, further⟩⟩

namespace Read

section

variable {data : List UInt8} {i : Nat}

def Keeps (data : List UInt8) (i : Nat) (after : Cursor) : Prop :=
  ∃ stop, i ≤ stop ∧ stop ≤ data.length ∧ after = place data stop

theorem Keeps.of_follows {α : Type} {ran : Except Breach (Option α × Nat)} {attempt : Attempt α}
    (follows : Indexed.Follows data i ran attempt) (f : α → Item) :
    Keeps data i (Cursor.mapRead f attempt).2 := by
  obtain ⟨stop, forth, within, same, -⟩ := follows.outcome
  exact ⟨stop, forth, within, same⟩

theorem run_keeps (r : Read) (inside : i ≤ data.length) :
    Keeps data i (r.run (place data i)).2 := by
  cases r with
  | bool => exact .of_follows (Indexed.readBool_follows inside) _
  | byte => exact .of_follows (Indexed.readByte_follows inside) _
  | raw count => exact .of_follows (Indexed.readBytes_follows count inside) _
  | fixed count => exact .of_follows (Indexed.readFixed_follows count inside) _
  | int32 => exact .of_follows (Indexed.readInt32_follows inside) _
  | int64 => exact .of_follows (Indexed.readWord_follows 8 int64OfBytes inside) _
  | uint64 => exact .of_follows (Indexed.readWord_follows 8 uint64OfBytes inside) _
  | double => exact .of_follows (Indexed.readWord_follows 8 (Double.mk ∘ uint64OfBytes) inside) _
  | cstring => exact .of_follows (Indexed.readCString_follows inside) _
  | string => exact .of_follows (Indexed.readString_follows inside) _

theorem follow_keeps (reads : List Read) (inside : i ≤ data.length) :
    Keeps data i (follow reads (place data i)) := by
  induction reads generalizing i with
  | nil => exact ⟨i, Nat.le_refl i, inside, rfl⟩
  | cons r reads ih =>
    obtain ⟨next, forth, within, moved⟩ := run_keeps r inside
    obtain ⟨stop, further, ended, same⟩ := ih within
    refine ⟨stop, forth.trans further, ended, ?_⟩
    rw [← same, ← moved]
    rfl

end

end Read

end WireSchema.Bson
