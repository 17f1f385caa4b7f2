import Mathlib.Data.List.Basic
import Mathlib.Tactic.Ring

/-!
# Memory images of fixed size

A layout gives every value of a type an image of the same number of bytes, and reads the value back
from its image. Integers are little endian. Layouts are closed under products, fixed padding and
one-sided renaming, which is all a C structure needs: the round trip of a structure is the round
trip of its fields.
-/

namespace IiotMonitoring

/-- A fixed-size memory image that determines the value. -/
structure Layout (α : Type) where
  size : Nat
  encode : α → List UInt8
  decode : List UInt8 → α
  length_encode : ∀ value, (encode value).length = size
  decode_encode : ∀ value, decode (encode value) = value

attribute [simp] Layout.length_encode Layout.decode_encode

namespace Layout

variable {α β : Type}

/-- The value whose memory was cleared. -/
def zero (layout : Layout α) : α := layout.decode (List.replicate layout.size 0)

/-! ### Little-endian numbers -/

/-- The low `width` bytes of a number, least significant first. -/
def natBytes : Nat → Nat → List UInt8
  | 0, _ => []
  | width + 1, value => UInt8.ofNat value :: natBytes width (value / 256)

/-- The number a little-endian byte string denotes. -/
def bytesNat : List UInt8 → Nat
  | [] => 0
  | byte :: rest => byte.toNat + 256 * bytesNat rest

@[simp]
theorem length_natBytes (width value : Nat) : (natBytes width value).length = width := by
  induction width generalizing value with
  | zero => rfl
  | succ width ih => simp [natBytes, ih]

theorem bytesNat_natBytes (width value : Nat) :
    bytesNat (natBytes width value) = value % 256 ^ width := by
  induction width generalizing value with
  | zero => simp [natBytes, bytesNat, Nat.mod_one]
  | succ width ih =>
      have hsplit : value % 256 ^ (width + 1) =
          value % 256 + 256 * (value / 256 % 256 ^ width) := by
        rw [pow_succ', Nat.mod_mul]
      simp [natBytes, bytesNat, ih, hsplit, UInt8.toNat_ofNat']

theorem bytesNat_natBytes_of_lt {width value : Nat} (hvalue : value < 256 ^ width) :
    bytesNat (natBytes width value) = value := by
  rw [bytesNat_natBytes, Nat.mod_eq_of_lt hvalue]

def u8 : Layout UInt8 where
  size := 1
  encode value := natBytes 1 value.toNat
  decode bytes := UInt8.ofNat (bytesNat bytes)
  length_encode _ := length_natBytes 1 _
  decode_encode value := by
    rw [bytesNat_natBytes_of_lt (by simpa using value.toNat_lt), UInt8.ofNat_toNat]

def u16 : Layout UInt16 where
  size := 2
  encode value := natBytes 2 value.toNat
  decode bytes := UInt16.ofNat (bytesNat bytes)
  length_encode _ := length_natBytes 2 _
  decode_encode value := by
    rw [bytesNat_natBytes_of_lt (by simpa using value.toNat_lt), UInt16.ofNat_toNat]

def u32 : Layout UInt32 where
  size := 4
  encode value := natBytes 4 value.toNat
  decode bytes := UInt32.ofNat (bytesNat bytes)
  length_encode _ := length_natBytes 4 _
  decode_encode value := by
    rw [bytesNat_natBytes_of_lt (by simpa using value.toNat_lt), UInt32.ofNat_toNat]

def u64 : Layout UInt64 where
  size := 8
  encode value := natBytes 8 value.toNat
  decode bytes := UInt64.ofNat (bytesNat bytes)
  length_encode _ := length_natBytes 8 _
  decode_encode value := by
    rw [bytesNat_natBytes_of_lt (by simpa using value.toNat_lt), UInt64.ofNat_toNat]

/-! ### Arrays, padding, structures -/

/-- A byte array of `count` elements. -/
def bytes (count : Nat) : Layout (Vector UInt8 count) where
  size := count
  encode value := value.toList
  decode image := Vector.ofFn fun index : Fin count => image.getD index 0
  length_encode value := value.length_toList
  decode_encode value := by
    ext index hindex
    simp

/-- Bytes the compiler leaves between or after fields. -/
def padding (count : Nat) : Layout Unit where
  size := count
  encode _ := List.replicate count 0
  decode _ := ()
  length_encode _ := List.length_replicate
  decode_encode _ := rfl

/-- Two fields, one after the other. -/
def pair (left : Layout α) (right : Layout β) : Layout (α × β) where
  size := left.size + right.size
  encode value := left.encode value.1 ++ right.encode value.2
  decode image := (left.decode (image.take left.size), right.decode (image.drop left.size))
  length_encode value := by simp
  decode_encode value := by simp

/-- The layout of a type that is stored as another. -/
def via (layout : Layout β) (store : α → β) (load : β → α)
    (load_store : ∀ value, load (store value) = value) : Layout α where
  size := layout.size
  encode value := layout.encode (store value)
  decode image := load (layout.decode image)
  length_encode value := layout.length_encode (store value)
  decode_encode value := by rw [layout.decode_encode, load_store]

@[simp]
theorem size_pair (left : Layout α) (right : Layout β) :
    (left.pair right).size = left.size + right.size := rfl

@[simp]
theorem size_via (layout : Layout β) (store : α → β) (load : β → α)
    (load_store : ∀ value, load (store value) = value) :
    (layout.via store load load_store).size = layout.size := rfl

/-- A field's bytes do not depend on the fields after it. -/
theorem take_encode_pair (left : Layout α) (right : Layout β) (value : α × β) :
    ((left.pair right).encode value).take left.size = left.encode value.1 := by
  simp [pair]

/-! ### Images without spare bits -/

/-- Every image of the right size is the image of a value. -/
def Exact (layout : Layout α) : Prop :=
  ∀ image : List UInt8, image.length = layout.size → layout.encode (layout.decode image) = image

theorem bytesNat_lt (image : List UInt8) : bytesNat image < 256 ^ image.length := by
  induction image with
  | nil => decide
  | cons byte image ih =>
      have hbyte := byte.toNat_lt
      rw [bytesNat, List.length_cons, pow_succ]
      omega

theorem natBytes_bytesNat (image : List UInt8) : natBytes image.length (bytesNat image) = image := by
  induction image with
  | nil => rfl
  | cons byte image ih =>
      have hbyte := byte.toNat_lt
      have hlow : UInt8.ofNat (byte.toNat + 256 * bytesNat image) = byte := by
        apply UInt8.toNat.inj
        rw [UInt8.toNat_ofNat']
        omega
      rw [List.length_cons, bytesNat, natBytes, hlow,
        show (byte.toNat + 256 * bytesNat image) / 256 = bytesNat image by omega, ih]

theorem natBytes_bytesNat_mod {width : Nat} {image : List UInt8} (hlength : image.length = width) :
    natBytes width (bytesNat image % 256 ^ width) = image := by
  subst hlength
  rw [Nat.mod_eq_of_lt (bytesNat_lt image), natBytes_bytesNat]

theorem exact_u8 : u8.Exact := fun _ hlength =>
  (congrArg (natBytes 1) UInt8.toNat_ofNat').trans (natBytes_bytesNat_mod hlength)

theorem exact_u16 : u16.Exact := fun _ hlength =>
  (congrArg (natBytes 2) UInt16.toNat_ofNat').trans (natBytes_bytesNat_mod hlength)

theorem exact_u32 : u32.Exact := fun _ hlength =>
  (congrArg (natBytes 4) UInt32.toNat_ofNat').trans (natBytes_bytesNat_mod hlength)

theorem exact_bytes (count : Nat) : (bytes count).Exact := by
  intro image hlength
  apply List.ext_getElem
  · simp [bytes, hlength]
  · intro index hleft hright
    simp [bytes, hright]

theorem Exact.pair {left : Layout α} {right : Layout β} (hleft : left.Exact) (hright : right.Exact) :
    (left.pair right).Exact := by
  intro image hlength
  rw [size_pair] at hlength
  have hfirst := hleft (image.take left.size) (by rw [List.length_take, hlength]; omega)
  have hsecond := hright (image.drop left.size) (by rw [List.length_drop, hlength]; omega)
  calc (left.pair right).encode ((left.pair right).decode image)
      = image.take left.size ++ image.drop left.size := congrArg₂ _ hfirst hsecond
    _ = image := List.take_append_drop ..

theorem Exact.via {layout : Layout β} {store : α → β} {load : β → α}
    (load_store : ∀ value, load (store value) = value) (hlayout : layout.Exact)
    (store_load : ∀ fields, store (load fields) = fields) :
    (layout.via store load load_store).Exact := by
  intro image hlength
  calc layout.encode (store (load (layout.decode image)))
      = layout.encode (layout.decode image) := by rw [store_load]
    _ = image := hlayout image hlength

end Layout

end IiotMonitoring
