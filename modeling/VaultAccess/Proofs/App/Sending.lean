import VaultAccess.Proofs.Http.Sequel
import VaultAccess.Proofs.Settings.Sources
import VaultAccess.Proofs.Vault.Trace

/-!
# What the program sends

Nothing is sent unless the command asks for the vault, its ids can be read and the settings have no
problems; then the program does connect. All that is sent identifies the caller as the settings in
force say, and what is sent for a request goes below their address. The wire may answer anything.
A reply may send a message on to another place, so what is sent besides are messages sent on.
-/
namespace VaultAccess

open Vault

namespace Vault.Program

variable {α σ τ : Type}

/-! ## Gateways that keep more -/

section

variable {g : Gateway τ} {g' : Gateway σ} (project : τ → σ)
  (hanswer : ∀ r t, (g.answer r t).1 = (g'.answer r (project t)).1 ∧
    project (g.answer r t).2 = (g'.answer r (project t)).2)
  (hlog : ∀ line t, project (g.log line t) = g'.log line (project t))

include hanswer hlog

/-- A run against a gateway that keeps more than another one, and answers as that does. -/
theorem run_project (p : Program α) (t : τ) :
    (p.run g t).1 = (p.run g' (project t)).1 ∧
      project (p.run g t).2 = (p.run g' (project t)).2 := by
  induction p generalizing t with
  | done a => exact ⟨rfl, rfl⟩
  | ask r next ih =>
    rw [run_ask, run_ask, ← (hanswer r t).1, ← (hanswer r t).2]
    exact ih _ _
  | note line next ih =>
    rw [run_note, run_note, ← hlog]
    exact ih _

end

end Vault.Program

namespace Http

variable {σ τ : Type}

namespace Connection

variable {c : Connection} {wire : Wire σ} {log : LogLine → σ → σ} {r : Request}

/-- The messages for the requests of exchanges. A request that is refused has none. -/
def messages (c : Connection) (xs : List Exchange) : List Message :=
  xs.filterMap fun x => (c.outgoing x.request).2.toOption

/-- The state after lines of the log. -/
def noted (log : LogLine → σ → σ) (lines : List LogLine) (s : σ) : σ :=
  lines.foldl (fun s line => log line s) s

theorem answer_of_error {e : Fault} (h : (c.outgoing r).2 = .error e) (s : σ) :
    (c.gateway wire log).answer r s = (.error e, noted log (c.outgoing r).1 s) := by
  unfold gateway
  dsimp only
  rw [h]
  rfl

theorem answer_of_ok {m : Message} (h : (c.outgoing r).2 = .ok m) (s : σ) :
    (c.gateway wire log).answer r s =
      let last := wire.follow maxRedirections m (noted log (c.outgoing r).1 s)
      ((incoming r last.1).2, noted log (incoming r last.1).1 last.2) := by
  unfold gateway
  dsimp only
  rw [h]
  rfl

section Project

variable {wire' : Wire τ} {log' : LogLine → τ → τ} (project : τ → σ)

theorem noted_project (hlog : ∀ line t, project (log' line t) = log line (project t))
    (lines : List LogLine) (t : τ) :
    project (noted log' lines t) = noted log lines (project t) := by
  induction lines generalizing t with
  | nil => rfl
  | cons line rest ih => exact (ih _).trans (congrArg (noted log rest) (hlog line t))

/-- A wire that keeps more than another one, and delivers as that does, answers as that does. -/
theorem answer_project
    (hwire : ∀ m t, (wire' m t).1 = (wire m (project t)).1 ∧
      project (wire' m t).2 = (wire m (project t)).2)
    (hlog : ∀ line t, project (log' line t) = log line (project t)) (r : Request) (t : τ) :
    ((c.gateway wire' log').answer r t).1 = ((c.gateway wire log).answer r (project t)).1 ∧
      project ((c.gateway wire' log').answer r t).2 =
        ((c.gateway wire log).answer r (project t)).2 := by
  cases hout : (c.outgoing r).2 with
  | error e =>
    rw [answer_of_error hout, answer_of_error hout]
    dsimp only
    exact ⟨rfl, noted_project project hlog _ t⟩
  | ok m =>
    obtain ⟨hlast, hstate⟩ := Wire.follow_project project hwire maxRedirections m
      (noted log' (c.outgoing r).1 t)
    rw [noted_project project hlog] at hlast hstate
    rw [answer_of_ok hout, answer_of_ok hout]
    dsimp only
    rw [hlast, noted_project project hlog, hstate]
    exact ⟨rfl, rfl⟩

end Project

end Connection

end Http

namespace App

open CommandLine (Command)
open Http (Connection Delivery Message Wire)

variable {σ : Type} {wire : Wire σ} {start : Surroundings} {state : σ} {c : Connection}
  {program : Program (Except Failure String)}
  {ending : List LogLine → Except Failure String → Ending}

/-! ## Plans -/

/-- The gateway of a run, which keeps the log in reverse beside the state of the wire. -/
def carrying (c : Connection) (wire : Wire σ) : Program.Gateway (σ × List LogLine) :=
  c.gateway (fun m t => ((wire m t.1).1, (wire m t.1).2, t.2)) fun line t => (t.1, line :: t.2)

theorem run_talk (wire : Wire σ) (state : σ) :
    (Plan.talk c program ending).run wire state =
      let final := program.run (carrying c wire) (state, [])
      (ending final.2.2.reverse final.1, final.2.1) := rfl

/-- The messages that a run of the program sends, in order, and what came of them. -/
def sent (wire : Wire σ) (start : Surroundings) (state : σ) : List (Message × Delivery) :=
  (run wire.recording start (state, [])).2.2

/-- The state of a run without the messages that were recorded. -/
def unrecorded (t : (σ × List (Message × Delivery)) × List LogLine) : σ × List LogLine :=
  (t.1.1, t.2)

theorem answer_unrecorded (c : Connection) (wire : Wire σ) (r : Request)
    (t : (σ × List (Message × Delivery)) × List LogLine) :
    ((carrying c wire.recording).answer r t).1 = ((carrying c wire).answer r (unrecorded t)).1 ∧
      unrecorded ((carrying c wire.recording).answer r t).2 =
        ((carrying c wire).answer r (unrecorded t)).2 := by
  unfold carrying
  exact Connection.answer_project unrecorded (fun _ _ => ⟨rfl, rfl⟩) (fun _ _ => rfl) r t

/-- A run is the same whether or not its messages are recorded. -/
theorem run_recording (wire : Wire σ) (start : Surroundings) (state : σ) :
    (run wire.recording start (state, [])).1 = (run wire start state).1 ∧
      (run wire.recording start (state, [])).2.1 = (run wire start state).2 := by
  unfold run
  cases plan start with
  | stop ending => exact ⟨rfl, rfl⟩
  | talk c program ending =>
    obtain ⟨hresult, hstate⟩ := Program.run_project unrecorded (answer_unrecorded c wire)
      (fun _ _ => rfl) program ((state, []), [])
    have hlog : (program.run (carrying c wire.recording) ((state, []), [])).2.2 =
        (program.run (carrying c wire) (state, [])).2.2 := congrArg Prod.snd hstate
    rw [run_talk, run_talk]
    dsimp only
    rw [hresult, hlog]
    exact ⟨rfl, congrArg Prod.fst hstate⟩

/-- A wire that delivers nothing. -/
def losing : Wire Unit := fun _ _ => (.lost, ())

end App

end VaultAccess
