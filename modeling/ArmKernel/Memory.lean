import Mathlib.Data.BitVec
import Mathlib.Logic.Function.Basic
import Mathlib.Data.List.Basic

/-!
# Words and user memory

The target is a 32-bit little-endian ARM: `uint8_t`, `uint32_t`, `size_t` and pointers
are bit vectors of their width, and the memory of the user tasks maps every address to
a byte. The kernel reads and writes it through the pointers that tasks pass to it.
-/

namespace ArmKernel

abbrev Byte := BitVec 8

abbrev Word := BitVec 32

abbrev Addr := BitVec 32

abbrev Mem := Addr → Byte

/-- The word stored at an address, least significant byte first. -/
def loadWord (mem : Mem) (addr : Addr) : Word :=
  mem (addr + 3) ++ mem (addr + 2) ++ mem (addr + 1) ++ mem addr

def storeByte (mem : Mem) (addr : Addr) (value : Byte) : Mem :=
  Function.update mem addr value

def storeWord (mem : Mem) (addr : Addr) (value : Word) : Mem :=
  storeByte (storeByte (storeByte (storeByte mem
    addr (value.extractLsb' 0 8))
    (addr + 1) (value.extractLsb' 8 8))
    (addr + 2) (value.extractLsb' 16 8))
    (addr + 3) (value.extractLsb' 24 8)

def byteAddr (addr : Addr) (index : ℕ) : Addr := addr + BitVec.ofNat 32 index

def bytesAt (mem : Mem) (addr : Addr) (length : Word) : List Byte :=
  (List.range length.toNat).map fun index => mem (byteAddr addr index)

/-- The cell is none of the bytes of the buffer of `length` bytes at `addr`. -/
def Outside (cell addr : Addr) (length : Word) : Prop :=
  ∀ index < length.toNat, cell ≠ byteAddr addr index

instance (cell addr : Addr) (length : Word) : Decidable (Outside cell addr length) := by
  unfold Outside
  infer_instance

/-- The two buffers have no byte in common. -/
def Apart (addr : Addr) (length : Word) (other : Addr) (otherLength : Word) : Prop :=
  ∀ index < length.toNat, Outside (byteAddr addr index) other otherLength

instance (addr : Addr) (length : Word) (other : Addr) (otherLength : Word) :
    Decidable (Apart addr length other otherLength) := by
  unfold Apart
  infer_instance

def memcpyLoop (mem : Mem) (dest src : Addr) : ℕ → Mem
  | 0 => mem
  | count + 1 =>
      let copied := memcpyLoop mem dest src count
      storeByte copied (byteAddr dest count) (copied (byteAddr src count))

/-- `memcpy` of string.c: bytes are copied one at a time in ascending order. -/
def memcpy (mem : Mem) (dest src : Addr) (count : Word) : Mem :=
  memcpyLoop mem dest src count.toNat

theorem byteAddr_injective {addr : Addr} {left right : ℕ} (leftLt : left < 2 ^ 32)
    (rightLt : right < 2 ^ 32) (same : byteAddr addr left = byteAddr addr right) :
    left = right := by
  have offsets : BitVec.ofNat 32 left = BitVec.ofNat 32 right := by
    simpa [byteAddr] using same
  have values := congrArg BitVec.toNat offsets
  rwa [BitVec.toNat_ofNat, BitVec.toNat_ofNat, Nat.mod_eq_of_lt leftLt,
    Nat.mod_eq_of_lt rightLt] at values

@[simp]
theorem storeByte_self (mem : Mem) (addr : Addr) (value : Byte) :
    storeByte mem addr value addr = value := by
  simp [storeByte]

theorem storeByte_of_ne {mem : Mem} {addr other : Addr} {value : Byte} (otherNe : other ≠ addr) :
    storeByte mem addr value other = mem other := by
  simp [storeByte, otherNe]

theorem memcpyLoop_outside {mem : Mem} {dest src addr : Addr} {count : ℕ}
    (outside : ∀ index < count, addr ≠ byteAddr dest index) :
    memcpyLoop mem dest src count addr = mem addr := by
  induction count with
  | zero => rfl
  | succ count ih =>
      rw [memcpyLoop, storeByte_of_ne (outside count (by omega))]
      exact ih fun index indexLt => outside index (by omega)

/-- A byte of the destination keeps the value that the loop stored there. -/
theorem memcpyLoop_dest {mem : Mem} {dest src : Addr} {index count : ℕ}
    (indexLt : index < count) (countLe : count ≤ 2 ^ 32) :
    memcpyLoop mem dest src count (byteAddr dest index) =
      memcpyLoop mem dest src index (byteAddr src index) := by
  induction count with
  | zero => omega
  | succ count ih =>
      rcases Nat.lt_succ_iff_lt_or_eq.mp indexLt with earlier | rfl
      · rw [memcpyLoop, storeByte_of_ne, ih earlier (by omega)]
        intro same
        have := byteAddr_injective (by omega) (by omega) same
        omega
      · rw [memcpyLoop, storeByte_self]

theorem bytesAt_memcpy {mem : Mem} {dest src : Addr} {count : Word}
    (apart : Apart dest count src count) :
    bytesAt (memcpy mem dest src count) dest count = bytesAt mem src count := by
  apply List.map_congr_left
  intro index indexMem
  have indexLt : index < count.toNat := List.mem_range.mp indexMem
  have countLt := count.isLt
  rw [memcpy, memcpyLoop_dest indexLt (by omega)]
  apply memcpyLoop_outside
  intro earlier earlierLt same
  exact apart earlier (by omega) index indexLt same.symm

theorem bytesAt_storeByte {mem : Mem} {addr cell : Addr} {length : Word} {value : Byte}
    (outside : Outside cell addr length) :
    bytesAt (storeByte mem cell value) addr length = bytesAt mem addr length := by
  apply List.map_congr_left
  intro index indexMem
  exact storeByte_of_ne (Ne.symm (outside index (List.mem_range.mp indexMem)))

end ArmKernel
