import Sarm.Path

/-!
The path of an HTTP/1 request, out of its request line. The target is found by its
first octet, copied with its query behind the docroot, and the query is cut off
once the whole is there.
-/
namespace Sarm.Http1
open Sarm.Memory Sarm.H2

/-- What becomes of a request line: a path, none, or an answer straight away. -/
inductive PathReply where
  | path (parsed : ParsedPath)
  | noMatch
  | status (code : Nat)
  deriving DecidableEq, Repr

/-- Where the target starts: at the first slash or asterisk, which has to be behind a
    space. The recursion is on the octets left of the window. -/
def findTarget (hdr : Mem) : Nat → Nat → UInt8 → Option Nat
  | 0, _, _ => none
  | left+1, i, previous =>
    let octet := hdr i
    if octet = '/'.toUInt8 ∨ octet = '*'.toUInt8 then if previous = ' '.toUInt8 then some i else none
    else if octet = 0 then none
    else findTarget hdr left (i + 1) octet

/-- Move the query out of the file name. The recursion is on the octets left of it. -/
def cutQuery : Nat → Nat → Nat → PathBufs → PathBufs × Option Nat
  | 0, _, length, bufs => (bufs,some length)
  | left+1, i, length, bufs =>
    if queryBufSize ≤ length then (bufs,none)
    else cutQuery left (i + 1) (length + 1) ⟨store bufs.filename i 0,store bufs.query length (bufs.filename i)⟩

/-- The end of parsing: a query starts at an offset of the file name, behind its
    question mark. -/
def parseEnd (query : Option Nat) (length : Nat) (bufs : PathBufs) : PathBufs × PathReply :=
  match query with
  | none => (bufs,.path ⟨length,none⟩)
  | some start => match cutQuery (length - start) start 0 bufs with
    | (bufs,none) => (bufs,.status 414)
    | (bufs,some queryLength) =>
      ({ bufs with filename := store bufs.filename (start - 1) 0 },.path ⟨start - 1,some queryLength⟩)

/-- The end of the target: an empty one becomes the default file, or stays the bare
    docroot. -/
def filenameDone (default : Bool) (written : Nat) (query : Option Nat) (bufs : PathBufs) : PathBufs × PathReply :=
  if written = wwwPrefix.length then
    if default then
      let length := wwwPrefix.length + defaultFile.length
      parseEnd query length
        { bufs with
          filename := store (blit bufs.filename wwwPrefix.length (ofBytes defaultFile) defaultFile.length) length 0 }
    else parseEnd query wwwPrefix.length bufs
  else parseEnd query written { bufs with filename := store bufs.filename written 0 }

/-- Copy the target behind the docroot up to a space, runs of slashes before the query
    as one. The recursion is on the octets left of the header. -/
def filenameLoop (hdr : Mem) (default : Bool) : Nat → Nat → Nat → Bool → Option Nat → PathBufs → PathBufs × PathReply
  | 0, _, _, _, _, bufs => (bufs,.noMatch)
  | left+1, read, written, slash, query, bufs =>
    if filenameBufSize ≤ written then (bufs,.status 414)
    else
      let octet := hdr read
      let copied := { bufs with filename := store bufs.filename written octet }
      if octet = 0 then (bufs,.noMatch)
      else if octet = ' '.toUInt8 then filenameDone default written query bufs
      else if octet = '\r'.toUInt8 ∨ octet = '\n'.toUInt8 then (bufs,.noMatch)
      else match query with
        | some start => filenameLoop hdr default left (read + 1) (written + 1) slash (some start) copied
        | none =>
          if octet = '/'.toUInt8 then
            if slash then filenameLoop hdr default left (read + 1) written true none bufs
            else filenameLoop hdr default left (read + 1) (written + 1) true none copied
          else if octet = '?'.toUInt8 then
            filenameLoop hdr default left (read + 1) (written + 1) false (some (written + 1)) copied
          else filenameLoop hdr default left (read + 1) (written + 1) false none copied

/-- The shortest header whose search window is inside it. -/
def searchWindow : Nat := 17

/-- The file name of a header of `len` octets: the asterisk form as it is, the origin
    form behind the docroot. -/
def parsePath (hdr : Mem) (len : Nat) (default : Bool) (bufs : PathBufs) : PathBufs × PathReply :=
  if len < searchWindow then (bufs,.status 400)
  else match findTarget hdr searchWindow 0 1 with
    | none => (bufs,.noMatch)
    | some i =>
      if len ≤ i + 1 then (bufs,.noMatch)
      else if hdr i = '*'.toUInt8 then
        if len < i + 2 ∨ hdr (i + 1) ≠ ' '.toUInt8 then (bufs,.status 400)
        else
          -- The asterisk is stored as a word.
          ({ bufs with filename := store (blit bufs.filename 0 (ofBytes ['*'.toUInt8]) 4) 1 0 },.path ⟨1,none⟩)
      else filenameLoop hdr default (len - (i + 1)) (i + 1) wwwPrefix.length true none
        { bufs with filename := blit bufs.filename 0 (ofBytes wwwPrefix) wwwPrefix.length }

end Sarm.Http1
