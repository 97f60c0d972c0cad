import Sarm.TableSteps

/-!
What a HEADERS frame comes to. It is the only frame that makes entries, and the only
one that the header table and the request record change with.
-/
namespace Sarm.H2
open Sarm.Memory
open Sarm.Hpack (h2HpackDecodeBlock HpackState)

/-- The header table, the request record and the ids of the entries are as before. -/
structure Untouched (c c' : Core) : Prop where
  req : c'.req = c.req
  hpack : c'.hpack = c.hpack
  ids : c'.table.ids = c.table.ids
  last : c'.conn.lastStreamId = c.conn.lastStreamId

theorem Untouched.refl (c : Core) : Untouched c c := ⟨rfl,rfl,rfl,rfl⟩

theorem Untouched.trans {c c' c'' : Core} (first : Untouched c c') (second : Untouched c' c'') : Untouched c c'' :=
  ⟨second.req.trans first.req,second.hpack.trans first.hpack,second.ids.trans first.ids,second.last.trans first.last⟩

/-! ### Frames other than HEADERS -/

theorem event_untouched {c : Core} {table : Table} {slot : Nat} {event : StreamEvent}
    (executed : h2StreamEvent c.table slot event = .ok table) : Untouched c { c with table := table } := by
  obtain ⟨state,_,rfl⟩ := event_cases executed
  exact ⟨rfl,rfl,rfl,rfl⟩

theorem endStream_untouched (c : Core) (hdr : FrameHeader) (slot : Nat) : Untouched c (c.endStream hdr slot).core := by
  rw [Core.endStream]
  split
  · split
    · exact .refl c
    · next table executed => exact event_untouched executed
  · exact .refl c

theorem setting_untouched (c : Core) (id value : Nat) : Untouched c (c.setting id value).1 := by
  rw [Core.setting]
  split
  · exact ⟨rfl,rfl,rfl,rfl⟩
  split
  · exact ⟨rfl,rfl,rfl,rfl⟩
  split
  · exact ⟨rfl,rfl,rfl,rfl⟩
  split
  · rw [Core.setInitialWindow]
    split
    · exact .refl c
    dsimp only
    have shifted := shiftWindows_same (BitVec.ofNat 64 value - BitVec.ofNat 64 c.conn.initialWindowSize) slots c.table
    split
    · exact ⟨rfl,rfl,rfl,rfl⟩
    · split
      · next table done => rw [done] at shifted; exact ⟨rfl,rfl,shifted.ids,rfl⟩
      · next table failed => rw [failed] at shifted; exact ⟨rfl,rfl,shifted.ids,rfl⟩
  split
  · split
    · exact .refl c
    · exact ⟨rfl,rfl,rfl,rfl⟩
  split <;> exact ⟨rfl,rfl,rfl,rfl⟩

theorem settingsLoop_untouched (payload : Mem) : ∀ (count off : Nat) (c : Core),
    Untouched c (settingsLoop payload count off c).1 := by
  intro count
  induction count with
  | zero => intro off c; exact .refl c
  | succ count ih =>
    intro off c
    have entry := setting_untouched c (bigEndian payload off 2) (bigEndian payload (off + 2) 4)
    rw [settingsLoop]
    split
    · next c' e failed => rw [failed] at entry; exact entry
    · next c' done => rw [done] at entry; exact entry.trans (ih _ c')

theorem settings_untouched (c : Core) (hdr : FrameHeader) (payload : Mem) :
    Untouched c (h2HandleSettings c hdr payload).core := by
  rw [h2HandleSettings]
  split
  · exact .refl c
  split
  · split <;> exact ⟨rfl,rfl,rfl,rfl⟩
  split
  · exact .refl c
  have entries := settingsLoop_untouched payload (hdr.length / settingsEntryLen) 0 c
  split
  · next c' e failed => rw [failed] at entries; exact entries
  · next c' done => rw [done] at entries; exact entries

theorem data_untouched (c : Core) (hdr : FrameHeader) (payload : Mem) :
    Untouched c (h2HandleData c hdr payload).core := by
  rw [h2HandleData]
  split
  · exact .refl c
  split
  · exact .refl c
  · next table executed => exact (event_untouched executed).trans (endStream_untouched _ hdr _)

theorem rst_untouched (c : Core) (hdr : FrameHeader) (payload : Mem) :
    Untouched c (h2HandleRstStream c hdr payload).core := by
  rw [h2HandleRstStream]
  split
  · exact .refl c
  split
  · exact .refl c
  split
  · exact .refl c
  split
  · exact .refl c
  · next table executed => exact event_untouched executed

theorem update_untouched (c : Core) (hdr : FrameHeader) (payload : Mem) :
    Untouched c (h2HandleWindowUpdate c hdr payload).core := by
  rw [h2HandleWindowUpdate]
  dsimp only
  split
  · exact .refl c
  split
  · exact .refl c
  split
  · split <;> exact ⟨rfl,rfl,rfl,rfl⟩
  split
  · split <;> exact .refl c
  split
  · exact .refl c
  · split <;> exact ⟨rfl,rfl,rfl,rfl⟩

theorem noted_untouched (c : Core) (type : Nat) : Untouched c (c.noted type) := ⟨rfl,rfl,rfl,rfl⟩

/-- A frame of any other type. -/
theorem dispatch_untouched {c : Core} {hdr : FrameHeader} (other : hdr.type ≠ frameHeaders) (payload : Mem) :
    Untouched c (h2DispatchFrame c hdr payload).core := by
  refine dispatch_rule (P := fun outcome => Untouched c outcome.core) ?_
  intro type outcome handled
  have noted := noted_untouched c type
  cases handled with
  | data _ => exact noted.trans (data_untouched _ hdr payload)
  | headers headers => exact absurd headers other
  | rstStream _ => exact noted.trans (rst_untouched _ hdr payload)
  | settings _ => exact noted.trans (settings_untouched _ hdr payload)
  | ping _ =>
    rw [h2HandlePing]
    split
    · exact noted
    split
    · exact noted
    split <;> exact noted
  | goaway _ =>
    rw [h2HandleGoaway]
    split
    · exact noted
    split
    · exact noted
    · exact ⟨rfl,rfl,rfl,rfl⟩
  | windowUpdate _ => exact noted.trans (update_untouched _ hdr payload)
  | passed _ _ _ => exact noted

/-! ### HEADERS -/

/-- The state once a HEADERS frame has its entry. -/
def Core.entered (c : Core) (table : Table) (conn : Conn) : Core := { c with table := table, conn := conn }

/-- How far a HEADERS frame gets. -/
inductive Headers (c : Core) (hdr : FrameHeader) (payload : Mem) : Outcome → Prop where
  /-- It is turned away before its block is looked at, and there is no entry. -/
  | refused {e : H2Error} (admitted : admitStream c hdr = .error e) : Headers c hdr payload (c.fails e)
  /-- Its stream does not take it. -/
  | late {slot : Nat} {table : Table} {conn : Conn} {e : H2Error} (admitted : admitStream c hdr = .ok (slot,table,conn))
      (event : h2StreamEvent table slot .recvHeaders = .error e) : Headers c hdr payload ((c.entered table conn).fails e)
  /-- Padding or priority does not fit. -/
  | unframed {slot : Nat} {table table' : Table} {conn : Conn} {e : H2Error}
      (admitted : admitStream c hdr = .ok (slot,table,conn)) (event : h2StreamEvent table slot .recvHeaders = .ok table')
      (fragment : blockFragment hdr payload = .error e) :
      Headers c hdr payload ((c.entered (table'.setFlags slot hdr.flags) conn).fails e)
  | undecoded {slot off len : Nat} {table table' : Table} {conn : Conn} {failure : Hpack.HpackError} {hpack : HpackState}
      (admitted : admitStream c hdr = .ok (slot,table,conn)) (event : h2StreamEvent table slot .recvHeaders = .ok table')
      (fragment : blockFragment hdr payload = .ok (off,len))
      (decoded : h2HpackDecodeBlock (shift payload off) len c.hpack = .error failure hpack) :
      Headers c hdr payload
        (Core.fails { c.entered (table'.setFlags slot hdr.flags) conn with hpack := hpack } .compressionError)
  /-- The fields make no request. -/
  | malformed {slot off len : Nat} {table table' : Table} {conn : Conn} {fields : List Hpack.FieldRef} {hpack : HpackState}
      {req : Request} (admitted : admitStream c hdr = .ok (slot,table,conn))
      (event : h2StreamEvent table slot .recvHeaders = .ok table') (fragment : blockFragment hdr payload = .ok (off,len))
      (decoded : h2HpackDecodeBlock (shift payload off) len c.hpack = .ok fields hpack)
      (built : h2BuildRequest (hpack.at (shift payload off)) hdr.streamId fields c.req = (req,false)) :
      Headers c hdr payload
        (Core.fails { c.entered (table'.setFlags slot hdr.flags) conn with hpack := hpack, req := req } .protocolError)
  | accepted {slot off len : Nat} {table table' : Table} {conn : Conn} {fields : List Hpack.FieldRef} {hpack : HpackState}
      {req : Request} (admitted : admitStream c hdr = .ok (slot,table,conn))
      (event : h2StreamEvent table slot .recvHeaders = .ok table') (fragment : blockFragment hdr payload = .ok (off,len))
      (decoded : h2HpackDecodeBlock (shift payload off) len c.hpack = .ok fields hpack)
      (built : h2BuildRequest (hpack.at (shift payload off)) hdr.streamId fields c.req = (req,true)) :
      Headers c hdr payload
        (Core.endStream { c.entered (table'.setFlags slot hdr.flags) conn with hpack := hpack, req := req } hdr slot)

theorem headers_cases (c : Core) (hdr : FrameHeader) (payload : Mem) :
    Headers c hdr payload (h2HandleHeaders c hdr payload) := by
  rw [h2HandleHeaders]
  split
  · next e admitted => exact .refused admitted
  next slot table conn admitted =>
  rw [Core.enterHeaders]
  split
  · next e event => exact .late admitted event
  next table' event =>
  dsimp only at event ⊢
  split
  · next e fragment => exact .unframed admitted event fragment
  next off len fragment =>
  rw [Core.receiveBlock]
  dsimp only
  cases decoded : h2HpackDecodeBlock (shift payload off) len c.hpack with
  | error failure hpack => exact .undecoded admitted event fragment decoded
  | ok fields hpack =>
    dsimp only
    cases built : h2BuildRequest (hpack.at (shift payload off)) hdr.streamId fields c.req with
    | mk req done =>
      cases done with
      | true => exact .accepted admitted event fragment decoded built
      | false => exact .malformed admitted event fragment decoded built

/-- What holds however far a HEADERS frame gets holds once it is dispatched. -/
theorem headers_rule {P : Outcome → Prop} {c : Core} {hdr : FrameHeader} {payload : Mem}
    (headers : hdr.type = frameHeaders)
    (each : ∀ outcome, Headers (c.noted frameHeaders) hdr payload outcome → P outcome) :
    P (h2DispatchFrame c hdr payload) := by
  have handler : h2DispatchFrame c hdr payload = h2HandleHeaders (c.noted frameHeaders) hdr payload := by
    rw [h2DispatchFrame,headers]
    rfl
  rw [handler]
  exact each _ (headers_cases _ hdr payload)

theorem fragment_error {hdr : FrameHeader} {payload : Mem} {e : H2Error}
    (fragment : blockFragment hdr payload = .error e) :
    e = .frameSizeError ∨ e = .protocolError := by
  rw [blockFragment] at fragment
  split at fragment
  · next e' padding =>
    cases fragment
    rw [stripPadding] at padding
    split at padding
    · split at padding
      · cases padding; exact .inl rfl
      split at padding
      · cases padding; exact .inr rfl
      · cases padding
    · cases padding
  · split at fragment
    · split at fragment
      · cases fragment; exact .inl rfl
      · cases fragment
    · cases fragment

end Sarm.H2
