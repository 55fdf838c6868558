import ArmKernel.Strings

/-!
# Busy-wait output

The output routines of bwio.c. A character is written by a store to the data register of the
channel, once the transmit queue of the UART has room; the stores are what the routines are modelled
by. `char` is unsigned on the target. A string is the list of its characters, and the NUL behind
them is read as the end of the list.

The two loops of `bwui2a` are `scaleUp` and `emit`. `bwformat` reads a conversion with `conversion`
and writes it with `convert`; what is left out are the settings of the UARTs and the input.
-/

namespace ArmKernel.Bwio

abbrev Store := Addr × Byte

def com1 : ℤ := 0

def com2 : ℤ := 1

def uart1Data : Addr := 0x808C0000

def uart2Data : Addr := 0x808D0000

def bwputc (channel : ℤ) (c : Byte) : ℤ × List Store :=
  if channel = com1 then (0, [(uart1Data, c)])
  else if channel = com2 then (0, [(uart2Data, c)])
  else (-1, [])

/-- Characters that are written one after the other, whatever `bwputc` returns. -/
def puts (channel : ℤ) (chars : List Byte) : List Store :=
  chars.flatMap fun c => (bwputc channel c).2

def c2x (ch : Byte) : Byte := if ch.toNat ≤ 9 then 0x30 + ch else 0x61 + ch - 10

def bwputx (channel : ℤ) (c : Byte) : ℤ × List Store :=
  let chh := c2x (c / 16)
  let chl := c2x (c % 16)
  let low := bwputc channel chl
  (low.1, (bwputc channel chh).2 ++ low.2)

def bwputr (channel : ℤ) (reg : Word) : ℤ × List Store :=
  let bytes : List Byte := [reg.extractLsb' 24 8, reg.extractLsb' 16 8, reg.extractLsb' 8 8,
    reg.extractLsb' 0 8]
  let space := bwputc channel 0x20
  (space.1, bytes.flatMap (fun byte => (bwputx channel byte).2) ++ space.2)

/-- The first loop of `bwputw`, which counts the characters of the text off the width. -/
def countOff : ℤ → List Byte → ℤ
  | n, [] => n
  | n, _ :: rest => if n > 0 then countOff (n - 1) rest else n

def bwputw (channel n : ℤ) (fc : Byte) (bf : List Byte) : List Store :=
  puts channel (List.replicate (countOff n bf).toNat fc) ++ puts channel bf

def bwa2d (ch : Byte) : ℤ :=
  if 0x30 ≤ ch.toNat ∧ ch.toNat ≤ 0x39 then ch.toNat - 0x30
  else if 0x61 ≤ ch.toNat ∧ ch.toNat ≤ 0x66 then ch.toNat - 0x61 + 10
  else if 0x41 ≤ ch.toNat ∧ ch.toNat ≤ 0x46 then ch.toNat - 0x41 + 10
  else -1

def next : List Byte → Byte × List Byte
  | [] => (0, [])
  | c :: rest => (c, rest)

/-- The character is no digit for `bwa2i`. -/
def EndsNumber (base : Word) (ch : Byte) : Prop := bwa2d ch < 0 ∨ bwa2d ch > base.toInt

instance (base : Word) (ch : Byte) : Decidable (EndsNumber base ch) :=
  inferInstanceAs (Decidable (_ ∨ _))

def bwa2iLoop (base : Word) : Word → Byte → List Byte → Byte × List Byte × Word
  | num, ch, [] =>
      if EndsNumber base ch then (ch, [], num)
      else (0, [], num * base + BitVec.ofInt 32 (bwa2d ch))
  | num, ch, c :: src =>
      if EndsNumber base ch then (ch, c :: src, num)
      else bwa2iLoop base (num * base + BitVec.ofInt 32 (bwa2d ch)) c src

def bwa2i (ch : Byte) (src : List Byte) (base : Word) : Byte × List Byte × Word :=
  bwa2iLoop base 0 ch src

/-- `while( (num / d) >= base ) d *= base`; `none` for a division by zero, or if the number of
iterations is not enough. -/
def scaleUp (num base : Word) : ℕ → Word → Option Word
  | 0, _ => none
  | fuel + 1, d =>
      if d = 0 then none
      else if num / d ≥ base then scaleUp num base fuel (d * base)
      else some d

def digitChar (dgt : Word) : Byte :=
  (dgt + if dgt.toInt < 10 then 0x30 else 0x61 - 10).setWidth 8

def emit (base : Word) : ℕ → (num d : Word) → (n : ℕ) → Option (List Byte)
  | 0, _, _, _ => none
  | fuel + 1, num, d, n =>
      if d = 0 then some []
      else
        let dgt := num / d
        let num := num % d
        if base = 0 then none
        else
          let d := d / base
          if n ≠ 0 ∨ dgt.toInt > 0 ∨ d = 0 then
            (emit base fuel num d (n + 1)).map (digitChar dgt :: ·)
          else
            emit base fuel num d n

/-- The iterations of each loop of `bwui2a`: a word is divided by two or more at most that often. -/
def wordFuel : ℕ := 33

def bwui2a (num base : Word) : Option (List Byte) := do
  let d ← scaleUp num base wordFuel 1
  emit base wordFuel num d 0

/-- `-num` of the most negative number is that number again. -/
def bwi2a (num : Word) : Option (List Byte) :=
  if num.toInt < 0 then (bwui2a (-num) 10).map (0x2D :: ·) else bwui2a num 10

def vaArg : List Word → Option (Word × List Word)
  | [] => none
  | arg :: va => some (arg, va)

def stringAt (mem : Mem) (addr : Addr) : List Byte :=
  text (fun index => mem (byteAddr addr index)) (2 ^ 32) 0

/-- The flags and the width of a conversion, the character that says which it is, and what follows
it. -/
def conversion (fmt : List Byte) : Byte × Word × Byte × List Byte :=
  let (ch, fmt) := next fmt
  if ch = 0x30 then
    let (ch, fmt) := next fmt
    (1, 0, ch, fmt)
  else if 0x31 ≤ ch.toNat ∧ ch.toNat ≤ 0x39 then
    let (ch, fmt, w) := bwa2i ch fmt 10
    (0, w, ch, fmt)
  else
    (0, 0, ch, fmt)

def convert (channel : ℤ) (mem : Mem) (lz : Byte) (w : Word) (ch : Byte)
    (va : List Word) : Option (List Store × List Word) :=
  if ch = 0x63 then do
    let (arg, va) ← vaArg va
    some ((bwputc channel (arg.setWidth 8)).2, va)
  else if ch = 0x73 then do
    let (arg, va) ← vaArg va
    some (bwputw channel w.toInt 0 (stringAt mem arg), va)
  else if ch = 0x75 then do
    let (arg, va) ← vaArg va
    let bf ← bwui2a arg 10
    some (bwputw channel w.toInt lz bf, va)
  else if ch = 0x64 then do
    let (arg, va) ← vaArg va
    let bf ← bwi2a arg
    some (bwputw channel w.toInt lz bf, va)
  else if ch = 0x78 then do
    let (arg, va) ← vaArg va
    let bf ← bwui2a arg 16
    some (bwputw channel w.toInt lz bf, va)
  else if ch = 0x25 then
    some ((bwputc channel ch).2, va)
  else
    some ([], va)

/-- The loop of `bwformat`; each iteration reads a character at least. -/
def bwformatLoop (channel : ℤ) (mem : Mem) : ℕ → List Byte → List Word → Option (List Store)
  | 0, _, _ => none
  | fuel + 1, fmt, va =>
      let (ch, fmt) := next fmt
      if ch = 0 then
        some []
      else if ch ≠ 0x25 then
        (bwformatLoop channel mem fuel fmt va).map ((bwputc channel ch).2 ++ ·)
      else
        let (lz, w, ch, fmt) := conversion fmt
        if ch = 0 then
          some []
        else do
          let (written, va) ← convert channel mem lz w ch va
          (bwformatLoop channel mem fuel fmt va).map (written ++ ·)

def bwformat (channel : ℤ) (mem : Mem) (fmt : List Byte) (va : List Word) : Option (List Store) :=
  bwformatLoop channel mem (fmt.length + 1) fmt va

end ArmKernel.Bwio
