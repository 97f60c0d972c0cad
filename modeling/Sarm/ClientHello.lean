import Sarm.Memory
import Sarm.HpackTables

/-!
ClientHello: the grammar of RFC 8446 §4.1.2 and of the extensions that the server looks at, and the
parser of it. What the parser examines of an extension of another type, or of a list of server names
behind its first entry, is nothing but the length.
-/
namespace Sarm.Hello
open Sarm.Memory
open Sarm.Hpack (ascii)

/-! ### The grammar -/

def u16 (n : Nat) : List UInt8 := [UInt8.ofNat (n / 256),UInt8.ofNat n]

/-- A vector with its length in one octet. -/
def vec8 (l : List UInt8) : List UInt8 := UInt8.ofNat l.length :: l

/-- A vector with its length in two octets. -/
def vec16 (l : List UInt8) : List UInt8 := u16 l.length ++ l

/-- An entry of a list of shares: the group and the key. -/
structure KeyShare where
  group : Nat
  key : List UInt8
  deriving DecidableEq, Repr

/-- An entry of a list of names. -/
structure ServerName where
  type : UInt8
  name : List UInt8
  deriving DecidableEq, Repr

def KeyShare.octets (s : KeyShare) : List UInt8 := u16 s.group ++ vec16 s.key

def ServerName.octets (n : ServerName) : List UInt8 := n.type :: vec16 n.name

/-- The extensions that are acted on, and any other. A list of names may have something behind its entries. -/
inductive Extension where
  | versions (list : List Nat)
  | groups (list : List Nat)
  | shares (list : List KeyShare)
  | protocols (list : List (List UInt8))
  | names (list : List ServerName) (rest : List UInt8)
  | other (type : Nat) (data : List UInt8)
  deriving DecidableEq, Repr

/-- `TLS_EXT_…`. -/
def Extension.type : Extension → Nat
  | .versions _ => 43
  | .groups _ => 10
  | .shares _ => 51
  | .protocols _ => 16
  | .names _ _ => 0
  | .other type _ => type

def Extension.data : Extension → List UInt8
  | .versions list => vec8 (list.flatMap u16)
  | .groups list => vec16 (list.flatMap u16)
  | .shares list => vec16 (list.flatMap KeyShare.octets)
  | .protocols list => vec16 (list.flatMap vec8)
  | .names list rest => vec16 (list.flatMap ServerName.octets ++ rest)
  | .other _ data => data

def Extension.octets (e : Extension) : List UInt8 := u16 e.type ++ vec16 e.data

structure ClientHello where
  version : Nat
  random : List UInt8
  sessionId : List UInt8
  suites : List Nat
  compression : List UInt8
  extensions : Option (List Extension)
  deriving DecidableEq, Repr

def ClientHello.octets (h : ClientHello) : List UInt8 :=
  u16 h.version ++ (h.random ++ (vec8 h.sessionId ++ (vec16 (h.suites.flatMap u16) ++ (vec8 h.compression ++
    h.extensions.elim [] fun list => vec16 (list.flatMap Extension.octets)))))

/-- The extensions there are. -/
def ClientHello.list (h : ClientHello) : List Extension := h.extensions.getD []

/-! ### What the message is -/

/-- The types that are acted on. -/
def interpreted : List Nat := [43,10,51,16,0]

def x25519Group : Nat := 0x001d

/-- Every length fits where it stands, and no list ends inside an entry. -/
def Extension.Framed (e : Extension) : Prop :=
  e.data.length < 65536 ∧ match e with
  | .versions list => list ≠ [] ∧ list.length < 128 ∧ ∀ v ∈ list, v < 65536
  | .groups list => ∀ g ∈ list, g < 65536
  | .shares list => ∀ s ∈ list, s.group < 65536 ∧ s.key.length < 65536 ∧ (s.group = x25519Group → s.key.length = 32)
  | .protocols list => ∀ p ∈ list, p.length < 256
  | .names list rest => (∀ n ∈ list, n.name.length < 65536) ∧ (list = [] → rest = [])
  | .other type _ => type < 65536 ∧ type ∉ interpreted

structure ClientHello.Framed (h : ClientHello) : Prop where
  version : h.version < 65536
  random : h.random.length = 32
  sessionId : h.sessionId.length ≤ 32
  suites : h.suites ≠ [] ∧ h.suites.length < 32768 ∧ ∀ s ∈ h.suites, s < 65536
  compression : h.compression.length < 256
  extensions : ∀ list, h.extensions = some list → (list.flatMap Extension.octets).length < 65536 ∧ ∀ e ∈ list, e.Framed

/-- The presentation language has lower bounds too, and no list with something behind its entries. -/
def Extension.WellFormed (e : Extension) : Prop :=
  e.data.length < 65536 ∧ match e with
  | .versions list => list ≠ [] ∧ list.length ≤ 127 ∧ ∀ v ∈ list, v < 65536
  | .groups list => list ≠ [] ∧ ∀ g ∈ list, g < 65536
  | .shares list => ∀ s ∈ list, s.group < 65536 ∧ 0 < s.key.length ∧ s.key.length < 65536 ∧
      (s.group = x25519Group → s.key.length = 32)
  | .protocols list => list ≠ [] ∧ ∀ p ∈ list, 0 < p.length ∧ p.length < 256
  | .names list rest => list ≠ [] ∧ rest = [] ∧ ∀ n ∈ list, 0 < n.name.length ∧ n.name.length < 65536
  | .other type _ => type < 65536 ∧ type ∉ interpreted

instance : DecidablePred Extension.WellFormed
  | .versions _ | .groups _ | .shares _ | .protocols _ | .names _ _ | .other _ _ => inferInstanceAs (Decidable (_ ∧ _))

/-- RFC 8446 §4.1.2. -/
structure ClientHello.WellFormed (h : ClientHello) : Prop where
  version : h.version < 65536
  random : h.random.length = 32
  sessionId : h.sessionId.length ≤ 32
  suites : h.suites ≠ [] ∧ h.suites.length ≤ 32767 ∧ ∀ s ∈ h.suites, s < 65536
  compression : 0 < h.compression.length ∧ h.compression.length < 256
  extensions : ∀ list, h.extensions = some list →
    8 ≤ (list.flatMap Extension.octets).length ∧ (list.flatMap Extension.octets).length < 65536 ∧ ∀ e ∈ list, e.WellFormed

theorem Extension.WellFormed.framed {e : Extension} (formed : e.WellFormed) : e.Framed := by
  obtain ⟨size,formed⟩ := formed
  refine ⟨size,?_⟩
  cases e with
  | versions list => exact ⟨formed.1,Nat.lt_succ_of_le formed.2.1,formed.2.2⟩
  | groups list => exact formed.2
  | shares list => exact fun s mem => ⟨(formed s mem).1,(formed s mem).2.2⟩
  | protocols list => exact fun p mem => (formed.2 p mem).2
  | names list rest => exact ⟨fun n mem => (formed.2.2 n mem).2,fun _ => formed.2.1⟩
  | other type data => exact formed

theorem ClientHello.WellFormed.framed {h : ClientHello} (formed : h.WellFormed) : h.Framed where
  version := formed.version
  random := formed.random
  sessionId := formed.sessionId
  suites := ⟨formed.suites.1,Nat.lt_succ_of_le formed.suites.2.1,formed.suites.2.2⟩
  compression := formed.compression.2
  extensions :=
    fun list there =>
    ⟨(formed.extensions list there).2.1,fun e mem => ((formed.extensions list there).2.2 e mem).framed⟩

/-- What the server asks of a message. -/
structure ClientHello.Offers (h : ClientHello) : Prop where
  compression : h.compression = [0]
  tls13 : ∃ list, .versions list ∈ h.list ∧ 0x0304 ∈ list
  cipher : 0x1301 ∈ h.suites
  group : ∃ list, .groups list ∈ h.list ∧ x25519Group ∈ list
  keyshare : ∃ list, .shares list ∈ h.list ∧ ∃ key, key.length = 32 ∧ ⟨x25519Group,key⟩ ∈ list
  alpn : ∃ list, .protocols list ∈ h.list ∧ ascii "h2" ∈ list

/-- `tls_sni_hostname`. -/
def hostname : List UInt8 := ascii "localhost"

/-- There is no host name but the one that is configured. -/
def ClientHello.Named (h : ClientHello) : Prop :=
  ∀ list rest, .names list rest ∈ h.list → ∀ n ∈ list, n.type = 0 → n.name = hostname

/-! ### The parser -/

/-- `TLS_ALERT_…`. -/
inductive Alert where
  | handshakeFailure
  | illegalParameter
  | decodeError
  | protocolVersion
  | unrecognizedName
  | noApplicationProtocol
  deriving DecidableEq, Repr

def Alert.code : Alert → Nat
  | .handshakeFailure => 40
  | .illegalParameter => 47
  | .decodeError => 50
  | .protocolVersion => 70
  | .unrecognizedName => 112
  | .noApplicationProtocol => 120

/-- A message is refused, or an octet is read that is not one of the body. -/
inductive Stop where
  | alert (a : Alert)
  | outside
  deriving DecidableEq, Repr

/-- `CH_…`, the bits of `x11`. -/
structure Flags where
  tls13 : Bool
  cipher : Bool
  group : Bool
  keyshare : Bool
  alpn : Bool
  sniSeen : Bool
  sniMatch : Bool
  deriving DecidableEq, Repr

/-- The flags, and `tls_state`. -/
structure Registers where
  x11 : Flags
  state : Mem

abbrev Parser := EStateM Stop Registers

/-- A pointer into the body is what is left of it from there on. -/
abbrev Cursor := List UInt8

def refuse {α : Type} (a : Alert) : Parser α := throw (.alert a)

def refuseIf (c : Prop) [Decidable c] (a : Alert) : Parser Unit := if c then refuse a else pure ()

def ldrb (p : Cursor) (i : Nat) : Parser UInt8 :=
  match p[i]? with
  | some octet => pure octet
  | none => throw .outside

/-- Two octets, the first one the higher. -/
def ldrh (p : Cursor) (i : Nat) : Parser Nat := do
  let high ← ldrb p i
  let low ← ldrb p (i+1)
  pure (high.toNat * 256 + low.toNat)

/-- `n` octets. -/
def ldrn (p : Cursor) (n : Nat) : Parser (List UInt8) := if n ≤ p.length then pure (p.take n) else throw .outside

def setFlags (f : Flags → Flags) : Parser Unit := modify fun r => { r with x11 := f r.x11 }

/-- Octets stored into `tls_state`. -/
def put (at' : Nat) (octets : List UInt8) : Parser Unit :=
  modify fun r => { r with state := blit r.state at' (ofBytes octets) octets.length }

/-- A doubleword, the lowest octet first. -/
def u64 (n : Nat) : List UInt8 := (List.range 8).map fun i => UInt8.ofNat (n / 256^i)

/-- `.Lch_cs_scan`, `.Lch_ver_scan` and `.Lch_grp_scan`, with `n` entries to go: the length they start
    with has been found even. -/
def scan (value : Nat) (found : Flags → Flags) : Cursor → Nat → Parser Unit
  | _,0 => pure ()
  | x2,n+1 => do
    let w4 ← ldrh x2 0
    if w4 = value then setFlags found
    scan value found (x2.drop 2) n

def csScan : Cursor → Nat → Parser Unit := scan 0x1301 fun f => { f with cipher := true }

def verScan : Cursor → Nat → Parser Unit := scan 0x0304 fun f => { f with tls13 := true }

def grpScan : Cursor → Nat → Parser Unit := scan x25519Group fun f => { f with group := true }

/-- `.Lch_ks_scan`. -/
def ksScan (x2 : Cursor) (x3 : Nat) : Parser Unit :=
  if x3 = 0 then pure ()
  else if x3 < 4 then refuse .decodeError
  else do
    let w4 ← ldrh x2 0
    let w6 ← ldrh x2 2
    let x7 := 4 + w6
    if _ : x3 < x7 then refuse .decodeError
    else do
      if w4 = x25519Group then
        refuseIf (w6 ≠ 32) .decodeError
        let key ← ldrn (x2.drop 4) 32
        put 80 key
        setFlags fun f => { f with keyshare := true }
      ksScan (x2.drop x7) (x3-x7)
termination_by x3
decreasing_by omega

/-- `.Lch_alpn_scan`. -/
def alpnScan (x2 : Cursor) (x3 : Nat) : Parser Unit :=
  if x3 = 0 then pure ()
  else do
    let w4 ← ldrb x2 0
    let x5 := w4.toNat + 1
    if _ : x3 < x5 then refuse .decodeError
    else do
      if w4 = 2 then
        let w6 ← ldrb x2 1
        let w7 ← ldrb x2 2
        if w6 = 'h'.toUInt8 ∧ w7 = '2'.toUInt8 then setFlags fun f => { f with alpn := true }
      alpnScan (x2.drop x5) (x3-x5)
termination_by x3

/-- The list of one extension, whose length in front of it must be what is left of the data. -/
def listLength (x9 : Cursor) (x15 : Nat) : Parser Nat := do
  refuseIf (x15 < 2) .decodeError
  let w0 ← ldrh x9 0
  refuseIf (w0 + 2 ≠ x15) .decodeError
  pure w0

def extVersions (x9 : Cursor) (x15 : Nat) : Parser Unit := do
  refuseIf (x15 < 3) .decodeError
  let w0 ← ldrb x9 0
  refuseIf (w0.toNat + 1 ≠ x15) .decodeError
  refuseIf (w0.toNat % 2 ≠ 0) .decodeError
  verScan (x9.drop 1) (w0.toNat / 2)

def extGroups (x9 : Cursor) (x15 : Nat) : Parser Unit := do
  let w0 ← listLength x9 x15
  refuseIf (w0 % 2 ≠ 0) .decodeError
  grpScan (x9.drop 2) (w0 / 2)

def extKeyshare (x9 : Cursor) (x15 : Nat) : Parser Unit := do
  let w0 ← listLength x9 x15
  ksScan (x9.drop 2) w0

def extAlpn (x9 : Cursor) (x15 : Nat) : Parser Unit := do
  let w0 ← listLength x9 x15
  alpnScan (x9.drop 2) w0

/-- Only the first entry is looked at. -/
def extSni (x9 : Cursor) (x15 : Nat) : Parser Unit := do
  let w0 ← listLength x9 x15
  if w0 = 0 then pure ()
  else do
    refuseIf (w0 < 3) .decodeError
    let x2 := x9.drop 2
    let w4 ← ldrb x2 0
    let w5 ← ldrh x2 1
    refuseIf (w0 < w5 + 3) .decodeError
    if w4 = 0 then
      setFlags fun f => { f with sniSeen := true }
      if w5 = hostname.length then
        let name ← ldrn (x2.drop 3) w5
        if name = hostname then setFlags fun f => { f with sniMatch := true }

def extension (type : Nat) (x9 : Cursor) (x15 : Nat) : Parser Unit :=
  if type = 43 then extVersions x9 x15
  else if type = 10 then extGroups x9 x15
  else if type = 51 then extKeyshare x9 x15
  else if type = 16 then extAlpn x9 x15
  else if type = 0 then extSni x9 x15
  else pure ()

/-- `.Lch_ext_loop`: the extensions end where the body does. -/
def extLoop (x9 : Cursor) : Parser Unit :=
  if x9 = [] then pure ()
  else if _ : x9.length < 4 then refuse .decodeError
  else do
    let w14 ← ldrh x9 0
    let x15 ← ldrh x9 2
    refuseIf ((x9.drop 4).length < x15) .decodeError
    extension w14 (x9.drop 4) x15
    extLoop ((x9.drop 4).drop x15)
termination_by x9.length
decreasing_by
  rw [List.length_drop,List.length_drop]
  omega

/-- `.Lch_ext_done`: what was asked for, in order. -/
def requirements : Parser Unit := do
  let x11 := (← get).x11
  refuseIf (x11.tls13 = false) .protocolVersion
  refuseIf (x11.cipher = false) .handshakeFailure
  refuseIf (x11.group = false ∨ x11.keyshare = false) .handshakeFailure
  refuseIf (x11.alpn = false) .noApplicationProtocol
  refuseIf (x11.sniSeen = true ∧ x11.sniMatch = false) .unrecognizedName
  put 416 (u64 2)
  put 424 (ascii "h2")

/-- Behind the random: the session id. -/
def sessionId (x9 : Cursor) : Parser Cursor := do
  let w14 := (← ldrb x9 0).toNat
  let x9 := x9.drop 1
  refuseIf (32 < w14) .decodeError
  refuseIf (x9.length < w14) .decodeError
  put 440 (u64 w14)
  let id ← ldrn x9 w14
  put 448 id
  pure (x9.drop w14)

def cipherSuites (x9 : Cursor) : Parser Cursor := do
  refuseIf (x9.length < 2) .decodeError
  let w14 ← ldrh x9 0
  let x9 := x9.drop 2
  refuseIf (w14 < 2) .decodeError
  refuseIf (w14 % 2 ≠ 0) .decodeError
  refuseIf (x9.length < w14) .decodeError
  csScan x9 (w14 / 2)
  pure (x9.drop w14)

def compressionMethods (x9 : Cursor) : Parser Cursor := do
  refuseIf (x9 = []) .decodeError
  let w14 := (← ldrb x9 0).toNat
  let x9 := x9.drop 1
  refuseIf (x9.length < w14) .decodeError
  refuseIf (w14 ≠ 1) .illegalParameter
  let method ← ldrb x9 0
  refuseIf (method ≠ 0) .illegalParameter
  pure (x9.drop 1)

def extensions (x9 : Cursor) : Parser Unit := do
  if x9 = [] then pure ()
  else do
    refuseIf (x9.length < 2) .decodeError
    let w14 ← ldrh x9 0
    let x9 := x9.drop 2
    refuseIf (x9.length ≠ w14) .decodeError
    extLoop x9

def noFlags : Flags := ⟨false,false,false,false,false,false,false⟩

/-- All in front of the requirements. -/
def fields (body : Cursor) : Parser Unit := do
  refuseIf (body.length < 35) .decodeError
  let x9 := body.drop 2
  let random ← ldrn x9 32
  put 16 random
  let x9 ← sessionId (x9.drop 32)
  let x9 ← cipherSuites x9
  let x9 ← compressionMethods x9
  extensions x9

def parseBody (body : Cursor) : Parser Unit := do
  fields body
  requirements

/-- What the parser says of a body, and `tls_state` behind it. -/
def tls_parse_client_hello (body : List UInt8) (state : Mem) : Except Stop Unit × Mem :=
  match parseBody body ⟨noFlags,state⟩ with
  | .ok _ r => (.ok (),r.state)
  | .error e r => (.error e,r.state)

end Sarm.Hello
