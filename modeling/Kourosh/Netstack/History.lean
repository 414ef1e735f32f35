import Kourosh.Netstack.Evolution

/-
  What the history of the stack records at each event.
-/

-- The History

namespace Kourosh.Netstack.NetStack

open List

variable {p : Profile} {s s' : NetStack} {e : Event}

inductive Logged (p : Profile) (s : NetStack) : Event → NetStack → Prop
| quiet {e : Event} {s' : NetStack} (hQuiet : e.quiet = true) (hLog : s'.log = s.log)
  (hNextId : s'.nextId = s.nextId) (hData : s'.dataIn = s.dataIn) :
  Logged p s e s'
| openedTcp {e : Event} {s' : NetStack} (hOpens : e.opens = true)
  (hLog : s'.log = ⟨s.log.created ++ [s.nextId], s.log.handled, s.log.retired ++ s.replaced,
    s.log.retiredUdp ++ []⟩)
  (hNextId : s'.nextId = p.width.cast (s.nextId + 1))
  (hData : s'.dataIn = s.dataIn) :
  Logged p s e s'
| openedUdp {e : Event} {s' : NetStack} (hOpens : e.opens = true)
  (hLog : s'.log = ⟨s.log.created ++ [s.nextId], s.log.handled, s.log.retired ++ [],
    s.log.retiredUdp ++ s.replacedUdp⟩)
  (hNextId : s'.nextId = p.width.cast (s.nextId + 1))
  (hData : s'.dataIn = s.dataIn) :
  Logged p s e s'
| queued {msg : DataIn} {s' : NetStack} (hId : msg.id ∈ s.log.created) (hLog : s'.log = s.log)
  (hNextId : s'.nextId = s.nextId) (hData : s'.dataIn = s.dataIn ++ [msg]) :
  Logged p s (.queue msg) s'
| handled {sent : Bool} {msg : DataIn} {s' : NetStack}
  (hLog : s'.log = ⟨s.log.created, s.log.handled ++ [msg], s.log.retired, s.log.retiredUdp⟩)
  (hNextId : s'.nextId = s.nextId) (hData : s.dataIn = msg :: s'.dataIn) :
  Logged p s (.data sent) s'
| closed {sent : Bool} {id : Nat} {c : UdpConn} {s' : NetStack}
  (hConn : s.tables.udpConn id = some c)
  (hLog : s'.log = ⟨s.log.created, s.log.handled ++ [.udpClose id],
    s.log.retired, s.log.retiredUdp ++ [(id, c)]⟩)
  (hNextId : s'.nextId = s.nextId)
  (hData : s.dataIn = .udpClose id :: s'.dataIn) :
  Logged p s (.data sent) s'
| retired {visit : Visit} {id : Nat} {todo : List Nat} {c : Conn} {s' : NetStack}
  (hPhase : s.phase = .tcp (id :: todo)) (hConn : s.tables.conn id = some c)
  (hEnd : (c.service visit).2 ≠ .keep) (hLog : s'.log = ⟨s.log.created, s.log.handled,
    s.log.retired ++ [(id, (c.service visit).1)],
    s.log.retiredUdp⟩)
  (hNextId : s'.nextId = s.nextId)
  (hData : s'.dataIn = s.dataIn) :
  Logged p s (.visitTcp visit) s'

lemma logged_of_effect (hEffect : Effect p s e s') : Logged p s e s' := by
  cases hEffect with
  | kept hQuiet _ hLog hNextId hData => exact .quiet hQuiet hLog hNextId hData
  | queued hId => exact .queued hId rfl rfl rfl
  | openedTcp hBase _ hOpens =>
    rcases hBase with rfl | rfl
    all_goals exact .openedTcp hOpens rfl rfl rfl
  | openedUdp _ hOpens => exact .openedUdp hOpens rfl rfl rfl
  | tcp hData | tcpClose hData | stray hData | udp hData => exact .handled rfl rfl hData
  | udpClose hData hConn => exact .closed hConn rfl rfl hData
  | removedTcp hPhase hConn hEnd => exact .retired hPhase hConn hEnd rfl rfl rfl
  | _ => exact .quiet rfl rfl rfl rfl

lemma logged_of_next (hCons : s.tables.Consistent) (hNext : s.next p e = some (.ok s')) :
  Logged p s e s' := logged_of_effect (effect_of_next hCons hNext)

-- Connections That Are Gone

/-
  Where a TCP connection that is gone comes from: it was gone before, a new one took its id, or a
  visit removed it.
-/
inductive Gone (s s' : NetStack) : Event → Nat × Conn → Prop
| before {e : Event} {x : Nat × Conn} (hMem : x ∈ s.log.retired) : Gone s s' e x
| replaced {e : Event} {x : Nat × Conn} (hOpens : e.opens = true)
  (hCreated : s'.log.created = s.log.created ++ [s.nextId]) (hMem : x ∈ s.replaced) :
  Gone s s' e x
| removed {visit : Visit} {id : Nat} {todo : List Nat} {c : Conn}
  (hPhase : s.phase = .tcp (id :: todo)) (hConn : s.tables.conn id = some c)
  (hEnd : (c.service visit).2 ≠ .keep) :
  Gone s s' (.visitTcp visit) (id, (c.service visit).1)

lemma gone_of_logged
  {x : Nat × Conn} (hLogged : Logged p s e s') (hMem : x ∈ s'.log.retired) : Gone s s' e x := by
  cases hLogged with
  | quiet _ hLog | queued _ hLog | handled hLog | closed _ hLog =>
    rw [hLog] at hMem
    exact .before hMem
  | openedTcp hOpens hLog =>
    have hCreated := congrArg Log.created hLog
    rw [hLog] at hMem
    rcases mem_append.mp hMem with hOld | hNew
    · exact .before hOld
    · exact .replaced hOpens hCreated hNew
  | openedUdp _ hLog =>
    rw [hLog, append_nil] at hMem
    exact .before hMem
  | retired hPhase hConn hEnd hLog =>
    rw [hLog] at hMem
    rcases mem_append.mp hMem with hOld | hNew
    · exact .before hOld
    · rw [mem_singleton.mp hNew]
      exact .removed hPhase hConn hEnd

lemma handled_of_logged (hLogged : Logged p s e s') :
  ∃ msgs, s'.log.handled = s.log.handled ++ msgs := by
  cases hLogged with
  | handled hLog | closed _ hLog => exact ⟨_, congrArg Log.handled hLog⟩
  | quiet _ hLog | openedTcp _ hLog | openedUdp _ hLog | queued _ hLog
  | retired _ _ _ hLog => exact ⟨[], by simp [hLog]⟩

end Kourosh.Netstack.NetStack
