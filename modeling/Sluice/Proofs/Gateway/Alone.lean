import Sluice.Gateway.Process
import Sluice.Proofs.Dialogue.Answering

/-!
# Tasks that nothing interrupts

What the process does is written for any host.  A task whose steps are taken one after the other,
with no other task between them, does what a process does that does one thing at a time: so
`serve_alone`, `reload_alone` and `prepare_alone` say of the two hosts.
-/

namespace Sluice.Gateway

open Dialogue

/-! ## Steps -/

@[simp] theorem alone_bind {α β : Type} (t : Task α) (f : α → Task β) :
    (t >>= f).alone = t.alone >>= fun a => (f a).alone :=
  run_bind _ t f

@[simp] theorem alone_ask (q : World) : Task.alone (Host.ask q) = Host.ask q :=
  bind_pure _

@[simp] theorem alone_access (a : Access) : Task.alone (Host.access a) = Host.access a :=
  bind_pure _

/-- A dialogue whose questions are answered by tasks that nothing interrupts. -/
theorem alone_run {P : Protocol} {α : Type} (d : Dialogue P α)
    {answer : (q : P.Question) → Task (P.Answer q)}
    {reply : (q : P.Question) → Running (P.Answer q)} (h : ∀ q, (answer q).alone = reply q) :
    (d.run answer).alone = d.run reply := by
  unfold Task.alone at h ⊢
  rw [run_run, funext h]

/-! ## The collaborators -/

theorem authorityAnswer_alone (q : Authority.Question) :
    Task.alone (authorityAnswer q) = authorityAnswer q := by
  cases q with
  | call c => exact alone_ask _
  | count c => exact alone_access _

theorem brokerAnswer_alone (q : Broker.Question) :
    Task.alone (brokerAnswer q) = brokerAnswer q := by
  cases q <;> first | exact alone_ask _ | exact alone_access _

theorem collaborator_alone (s : Settings) (q : Outside) :
    Task.alone (collaborator s q) = collaborator s q := by
  cases q with
  | allocate who subject n => exact alone_run _ authorityAnswer_alone
  | release groupId owner subject n => exact alone_run _ authorityAnswer_alone
  | forward origin events => exact alone_run _ brokerAnswer_alone
  | freshId => exact alone_ask _
  | wallClock => exact alone_ask _
  | clock => exact alone_ask _

/-! ## Serving, loading and starting -/

/-- A request that nothing interrupts is answered as by a process that does one thing at a time. -/
theorem serve_alone (s : Settings) (r : Request) : Task.alone (serve s r) = serve s r :=
  alone_run _ fun
    | .outside q => collaborator_alone s q
    | .access a => alone_access a

theorem pageAnswer_alone (s : DenyListSettings) (q : DenyLoad.PageRequest) :
    Task.alone (pageAnswer s q) = pageAnswer s q :=
  alone_run _ fun call => alone_ask (.call call)

theorem reload_alone (s : DenyListSettings) (pages : Nat) :
    Task.alone (reload s pages) = reload s pages := by
  unfold reload
  rw [alone_bind, alone_run _ (pageAnswer_alone s)]
  refine bind_congr fun x => ?_
  obtain _ | f | list := x
  · rfl
  · rfl
  · exact (alone_bind _ _).trans (by rw [alone_access]; rfl)

theorem probe_alone (s : Settings) : Task.alone (probe s) = probe s := by
  unfold probe
  rw [alone_bind, alone_run _ brokerAnswer_alone]
  refine bind_congr fun sink => ?_
  rw [alone_bind, alone_access]
  refine bind_congr fun _ => ?_
  rw [alone_bind, alone_run _ authorityAnswer_alone]
  exact bind_congr fun quota => alone_access _

/-- A process gets ready alike whether or not its steps are those of a task. -/
theorem prepare_alone (s : Settings) (pages : Nat) :
    Task.alone (prepare s pages) = prepare s pages := by
  unfold prepare
  rw [alone_bind, reload_alone]
  refine bind_congr fun x => ?_
  obtain _ | f | size := x
  · rfl
  · rfl
  · show Task.alone (probe s >>= _) = _
    rw [alone_bind, probe_alone]
    refine bind_congr fun _ => ?_
    cases addressOf? s with
    | none => rfl
    | some address =>
      show Task.alone (Host.ask _ >>= _) = _
      rw [alone_bind, alone_ask]
      rfl

end Sluice.Gateway
