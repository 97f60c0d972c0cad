import Sarm.HpackTables
import Sarm.Memory

/-!
The path of a request: the file name below the docroot with the query cut off,
percent-decoding in place, and the checks of what came out. The buffers keep what
was written to them when a path is rejected.
-/
namespace Sarm.H2
open Sarm.Memory
open Sarm.Hpack (ascii)

/-- `filename_buf_size`. -/
def filenameBufSize : Nat := 4096
/-- `query_buf_size`. -/
def queryBufSize : Nat := 4096

/-- `DOCROOT`. -/
def wwwPrefix : List UInt8 := ascii "www/"
/-- `DEFAULT_FILE`. -/
def defaultFile : List UInt8 := ascii "index.html"

/-- `filename_buf` and `query_buf`. -/
structure PathBufs where
  filename : Mem
  query : Mem

/-- The length of the file name, and that of the query if there is one. -/
structure ParsedPath where
  length : Nat
  query : Option Nat
  deriving DecidableEq, Repr

/-! ### The file name -/

/-- Copy what follows the question mark. The recursion is on the octets left. -/
def queryLoop (path : Mem) : Nat → Nat → Nat → Mem → Mem × Option Nat
  | 0, _, written, query => (store query written 0,some written)
  | left+1, read, written, query =>
    if queryBufSize ≤ written then (query,none)
    else queryLoop path left (read + 1) (written + 1) (store query written (path read))

/-- The end of the path: an empty one becomes the default file, or stays the bare
    docroot. -/
def fnameDone (default : Bool) (written : Nat) (bufs : PathBufs) : PathBufs × Option ParsedPath :=
  let filename := store bufs.filename written 0
  if written = wwwPrefix.length then
    if default then
      let length := written + defaultFile.length
      ({ bufs with filename := store (blit filename written (ofBytes defaultFile) defaultFile.length) length 0 },
        some ⟨length,none⟩)
    else ({ bufs with filename := filename },some ⟨written,none⟩)
  else ({ bufs with filename := filename },some ⟨written,none⟩)

/-- Copy the path behind the docroot, runs of slashes as one. The recursion is on
    the octets left. -/
def fnameLoop (path : Mem) (default : Bool) : Nat → Nat → Nat → Bool → PathBufs → PathBufs × Option ParsedPath
  | 0, _, written, _, bufs => fnameDone default written bufs
  | left+1, read, written, slash, bufs =>
    if filenameBufSize ≤ written then (bufs,none)
    else if path read = '?'.toUInt8 then
      match queryLoop path left (read + 1) 0 bufs.query with
      | (query,none) => ({ bufs with query := query },none)
      | (query,some length) => (⟨store bufs.filename written 0,query⟩,some ⟨written,some length⟩)
    else if path read = '/'.toUInt8 then
      if slash then fnameLoop path default left (read + 1) written true bufs
      else fnameLoop path default left (read + 1) (written + 1) true
        { bufs with filename := store bufs.filename written (path read) }
    else fnameLoop path default left (read + 1) (written + 1) false
      { bufs with filename := store bufs.filename written (path read) }

/-- The file name of a `:path` value of `len` octets: the asterisk form as it is,
    the origin form behind the docroot. -/
def parseH2Path (path : Mem) (len : Nat) (default : Bool) (bufs : PathBufs) : PathBufs × Option ParsedPath :=
  if len = 1 ∧ path 0 = '*'.toUInt8 then
    ({ bufs with filename := store (store bufs.filename 0 '*'.toUInt8) 1 0 },some ⟨1,none⟩)
  else if len = 0 then (bufs,none)
  else if path 0 = '/'.toUInt8 then
    fnameLoop path default (len - 1) 1 wwwPrefix.length true
      { bufs with filename := blit bufs.filename 0 (ofBytes wwwPrefix) wwwPrefix.length }
  else (bufs,none)

/-! ### Percent-decoding -/

/-- The value of a hex digit. Bit 5 is set before the digit is classified. -/
def hexToVal (octet : UInt8) : Option Nat :=
  let digit := octet.toNat ||| 0x20
  if digit < '0'.toNat then none
  else if digit ≤ '9'.toNat then some (digit - '0'.toNat)
  else if digit < 'a'.toNat then none
  else if 'f'.toNat < digit then none
  else some (digit - 'a'.toNat + 10)

/-- The octet of the two digits at `off`. -/
def hexPair (buf : Mem) (off : Nat) : Option UInt8 :=
  match hexToVal (buf off), hexToVal (buf (off + 1)) with
  | some high, some low => some (UInt8.ofNat (16 * high + low))
  | _, _ => none

/-- Decode from `read` to `written`, with `left` octets to go: at a NUL, or with
    none left, the result is cut off with a NUL. -/
def decodeLoop : Nat → Nat → Nat → Mem → Mem × Option Nat
  | 0, _, written, buf => (store buf written 0,some written)
  | left+1, read, written, buf =>
    if buf read = 0 then (store buf written 0,some written)
    else if buf read = '%'.toUInt8 then
      match left with
      | rest+2 => match hexPair buf (read + 1) with
        | none => (buf,none)
        | some octet =>
          if octet = 0 then (buf,none) else decodeLoop rest (read + 3) (written + 1) (store buf written octet)
      | _ => (buf,none)
    else decodeLoop left (read + 1) (written + 1) (store buf written (buf read))

/-- Decode the first `len` octets in place; a length of 0 is not passed. -/
def decodeUrl (buf : Mem) (len : Nat) : Mem × Option Nat := decodeLoop len 0 0 buf

/-! ### Checks -/

/-- Printable ASCII only. -/
def checkPathSafety (path : List UInt8) : Bool := path.all fun octet => 0x1f < octet.toNat && octet.toNat < 0x7f

/-- The segment ending here is not two dots; `dots` of its `count` octets are dots. -/
def segmentSafe (dots count : Nat) : Bool := !(dots = count && dots = 2)

def traversalLoop : List UInt8 → Nat → Nat → Bool
  | [], dots, count => segmentSafe dots count
  | octet :: path, dots, count =>
    if octet = '/'.toUInt8 ∨ octet = 0 then segmentSafe dots count && traversalLoop path 0 0
    else traversalLoop path (if octet = '.'.toUInt8 then dots + 1 else dots) (count + 1)

/-- No segment of the path is two dots. -/
def checkPathTraversal (path : List UInt8) : Bool := traversalLoop path 0 0

/-! ### Lengths -/

theorem fnameDone_length {default : Bool} {written : Nat} {bufs bufs' : PathBufs} {parsed : ParsedPath}
    (done : fnameDone default written bufs = (bufs',some parsed)) : written ≤ parsed.length := by
  rw [fnameDone] at done
  split at done
  · split at done
    · cases done; exact Nat.le_add_right _ _
    · cases done; exact Nat.le_refl _
  · cases done; exact Nat.le_refl _

theorem fnameLoop_length {path : Mem} {default : Bool} : ∀ (left read written : Nat) (slash : Bool)
    (bufs bufs' : PathBufs) (parsed : ParsedPath),
    fnameLoop path default left read written slash bufs = (bufs',some parsed) → written ≤ parsed.length := by
  intro left
  induction left with
  | zero => intro read written slash bufs bufs' parsed done; exact fnameDone_length done
  | succ left ih =>
    intro read written slash bufs bufs' parsed done
    rw [fnameLoop] at done
    split at done
    · cases done
    split at done
    · split at done
      · cases done
      · cases done; exact Nat.le_refl _
    split at done
    · split at done
      · exact ih _ _ _ _ _ _ done
      · exact Nat.le_of_succ_le (ih _ _ _ _ _ _ done)
    · exact Nat.le_of_succ_le (ih _ _ _ _ _ _ done)

/-- A parsed file name has an octet, as `decodeUrl` needs. -/
theorem parse_nonempty {path : Mem} {len : Nat} {default : Bool} {bufs bufs' : PathBufs} {parsed : ParsedPath}
    (done : parseH2Path path len default bufs = (bufs',some parsed)) : 0 < parsed.length := by
  rw [parseH2Path] at done
  split at done
  · cases done; exact Nat.one_pos
  split at done
  · cases done
  split at done
  · have docroot := fnameLoop_length _ _ _ _ _ _ _ done
    exact Nat.lt_of_lt_of_le (by decide) docroot
  · cases done

end Sarm.H2
