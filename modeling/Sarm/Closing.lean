import Sarm.Layer
import Sarm.Machines

/-!
A connection is closed only right behind a flush, whatever its calls return: nothing of it is left to the write of
`child_end`, which of an encrypted connection would be one in clear.
-/
namespace Sarm.H2.Layer
open Sarm.Memory Sarm.Programs

/-- It closes only what it has just flushed. -/
def Closes {α : Type} (p : Does α) : Prop := p.Behind (· = Call.flush) (· = Call.close) False

variable {α β : Type} (l : Layer) (files : List EmbeddedFile)

theorem closes_done (a : α) : Closes (.done a) := trivial

theorem closes_bind {p : Does α} {f : α → Does β} (front : Closes p) (back : ∀ a, Closes (f a)) : Closes (p.bind f) :=
  behind_bind front back

theorem closes_call {c : Call} {next : c.Result → Does α} (other : c ≠ .close) (rest : ∀ r, Closes (next r)) :
    Closes (.call l c next) := ⟨fun closing => other closing,fun r => behind_mono (rest r) False.elim⟩

theorem closes_ite {c : Prop} [Decidable c] {p q : Does α} (yes : Closes p) (no : Closes q) :
    Closes (if c then p else q) := by
  split
  · exact yes
  · exact no

theorem close_closes : Closes l.close := by
  rw [Closes,close]
  exact ⟨Call.noConfusion,fun _ => ⟨fun _ => rfl,fun _ => trivial⟩⟩

theorem send_closes (f : OutFrame) : Closes (l.send f) :=
  closes_call l Call.noConfusion fun _ => trivial

theorem sendAll_closes (frames : List OutFrame) : Closes (l.sendAll frames) := by
  induction frames with
  | nil => trivial
  | cons f frames ih => exact closes_bind (l.send_closes f) fun _ => ih

theorem writeHeaders_closes (r : Response) (streamId extra : Nat) : Closes (l.writeHeaders r streamId extra) := by
  rw [writeHeaders]
  cases headersFrame r streamId extra with
  | none => trivial
  | some f => exact l.send_closes f

theorem replyStatus_closes (streamId status : Nat) : Closes (l.replyStatus streamId status) :=
  closes_bind (l.writeHeaders_closes _ _ _) fun _ => trivial

theorem abort_closes : Closes l.abort := by
  rw [abort]
  cases l.stack with
  | nil => trivial
  | cons serve rest => exact closes_bind (l.replyStatus_closes _ _) fun _ => trivial

theorem respond_closes (streamId : Nat) (a : Answer) : Closes (l.respond streamId a) := by
  cases a with
  | status code => exact closes_bind (l.replyStatus_closes _ _) fun _ => trivial
  | headers r =>
    exact closes_bind (l.writeHeaders_closes _ _ _) fun ok => closes_ite (closes_done _) l.abort_closes
  | body r =>
    rw [respond]
    cases headersFrame r streamId 0 with
    | none => exact l.abort_closes
    | some f =>
      exact closes_ite (closes_done _) (closes_bind (l.send_closes f) fun ok => closes_ite (closes_done _) l.abort_closes)

theorem hook_closes (streamId : Nat) : Closes (l.hook files streamId) := by
  rw [hook]
  refine closes_ite (closes_done _) ?_
  cases h2StreamFind l.core.table streamId with
  | none => trivial
  | some slot => exact closes_ite (respond_closes _ _ _) (closes_done _)

theorem dispatch_closes (hdr : FrameHeader) (payload : Mem) : Closes (l.dispatch hdr payload) :=
  closes_bind (sendAll_closes _ _) fun _ => trivial

/-! ### The frame loop -/

theorem fill_closes (n : Nat) : Closes (l.fill n) := by
  refine closes_ite (closes_done _) (closes_call _ Call.noConfusion fun got => ?_)
  cases got <;> trivial

theorem away_closes (e : H2Error) : Closes ((l.goaway e).bind fun _ => l.close) :=
  closes_bind (l.send_closes _) fun _ => l.close_closes

theorem reset_closes (streamId : Nat) (e : H2Error) : Closes (l.reset streamId e) :=
  closes_bind (l.send_closes _) fun _ => trivial

theorem settle_closes (hdr : FrameHeader) (error : Option H2Error) : Closes (l.settle files hdr error) := by
  cases error with
  | none => exact hook_closes _ files _
  | some e => exact closes_ite (closes_ite (close_closes _) (reset_closes _ _ e)) (away_closes _ e)

theorem connectionTurn_closes : Closes (l.connectionTurn files) := by
  refine closes_bind (l.fill_closes _) fun filled => closes_ite (close_closes _) ?_
  dsimp only
  split
  · exact away_closes _ _
  · refine closes_bind (fill_closes _ _) fun filled => closes_ite (close_closes _) ?_
    exact closes_bind (dispatch_closes _ _ _) fun result => settle_closes _ files _ _

/-! ### The body writer -/

theorem sendChunk_closes (serve : Serve) (chunk : Nat) : Closes (l.sendChunk serve chunk) :=
  closes_call _ Call.noConfusion fun _ => closes_ite (closes_done _) l.abort_closes

theorem waitRead_closes (n : Nat) : Closes (l.waitRead n) := by
  refine closes_call _ Call.noConfusion fun got => ?_
  cases got <;> trivial

theorem waitSettle_closes (hdr : FrameHeader) (error : Option H2Error) : Closes (l.waitSettle files hdr error) := by
  cases error with
  | none => exact l.hook_closes files _
  | some e => exact closes_ite (closes_ite (closes_done _) (l.reset_closes _ e)) (closes_ite l.abort_closes (closes_done _))

theorem waitFrame_closes : Closes (l.waitFrame files) := by
  refine closes_bind (l.waitRead_closes _) fun read => closes_ite (abort_closes _) ?_
  dsimp only
  split
  · exact abort_closes _
  · refine closes_bind (waitRead_closes _ _) fun read => closes_ite (abort_closes _) ?_
    exact closes_bind (dispatch_closes _ _ _) fun result => waitSettle_closes _ files _ _

theorem waitTurn_closes (serve : Serve) : Closes (l.waitTurn files serve) := by
  rw [waitTurn]
  cases serve.staged with
  | none => exact l.waitFrame_closes files
  | some block =>
    exact closes_bind (l.send_closes _) fun ok => closes_ite (waitFrame_closes _ files) l.abort_closes

/-! ### Runs -/

theorem step_closes : Closes (l.step files) := by
  refine closes_ite (closes_done _) ?_
  cases l.stack with
  | nil => exact l.connectionTurn_closes files
  | cons serve rest => exact closes_ite (l.waitTurn_closes files serve) (l.sendChunk_closes serve _)

theorem enter_closes : Closes l.enter :=
  closes_bind (l.fill_closes _) fun _ => closes_ite (close_closes _) (closes_ite
    (closes_bind (send_closes _ _) fun _ => closes_ite (closes_done _) (close_closes _)) (close_closes _))

theorem connection_closes (n : Nat) : Closes (connection files l n) :=
  closes_bind l.enter_closes (repeated_behind (fun l => l.step_closes files) n)

end Sarm.H2.Layer
