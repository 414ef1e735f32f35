import Kourosh.Tun2socks.WellFormed

/-
  Who changes the entry of a port.

  A connect task and a reader write the table under their source port, whichever flow the entry
  belongs to by then.

  Correctness is proven by:
    * `actsFor_of_conns_ne`
-/

-- Conditions On A Run

namespace Kourosh.Tun2socks.Bridge

open Run
open Function
open Option

variable {s s' : Bridge}

/- The app opens a connection on a port only after it closed the one it had opened there before. -/
def Disciplined (s : Bridge) : Event → Prop
| .packet bytes _ app =>
  ∀ seg ∈ segmentOf bytes, seg.opens = true → ∀ previous ∈ s.apps.last seg.sport,
    previous = app ∨ s.apps.closed previous = true
| _ => True

instance (s : Bridge) (e : Event) : Decidable (s.Disciplined e) :=
  match e with
  | .packet bytes _ _ => inferInstanceAs (Decidable (∀ seg ∈ segmentOf bytes, _))
  | .resume | .connect _ _ | .reader _ _ | .writer _ _ => inferInstanceAs (Decidable True)

def Quiet (s : Bridge) (port : UInt16) : Prop :=
  ∀ f, f < s.count → (s.flows f).key.sport = port → (s.flows f).quiet = true

instance (s : Bridge) (port : UInt16) : Decidable (s.Quiet port) :=
  inferInstanceAs (Decidable (∀ f, f < s.count → _))

/-
  A FIN or RST for an entry is of the newest flow, and a SYN for a free port finds its earlier
  flows done.
-/
def Settles (s : Bridge) : Event → Prop
| .packet bytes _ app =>
  ∀ seg ∈ segmentOf bytes, (seg.closes = true → (s.conns seg.sport).isSome = true →
        ∀ n ∈ s.newest seg.sport, (s.flows n).key.app = app) ∧
      (seg.opens = true → seg.dstIp.isPrivate = false →
        s.conns seg.sport = none → s.Quiet seg.sport)
| _ => True

instance (s : Bridge) (e : Event) : Decidable (s.Settles e) :=
  match e with
  | .packet bytes _ _ => inferInstanceAs (Decidable (∀ seg ∈ segmentOf bytes, _))
  | .resume | .connect _ _ | .reader _ _ | .writer _ _ => inferInstanceAs (Decidable True)

/-
  The event is the flow's own: a step of its connect task or its reader, or a FIN or RST of the
  connection it is for.
-/
def ActsFor (s : Bridge) (f : Nat) : Event → Prop
| .packet bytes _ app =>
  (s.flows f).key.app = app ∧ ∃ seg, segmentOf bytes = some seg ∧ seg.closes = true
| .resume => False
| .connect g _ => g = f
| .reader g _ => g = f
| .writer _ _ => False

-- The Invariant

/-
  Only the newest flow of a port may still write the table, and the entry of a port is its newest
  flow's.
-/
structure Owned (s : Bridge) : Prop where
  quiet :
    ∀ f n, f < s.count → s.newest (s.flows f).key.sport = some n → f ≠ n → (s.flows f).quiet = true
  accepting :
    ∀ seg isn app, s.handler = .accepting seg isn app → s.conns seg.sport = none ∧ s.Quiet seg.sport
  conns : ∀ port conn, s.conns port = some conn → s.newest port = some conn.flow

lemma owned_init : Owned init where
  quiet := by
    intro f n hLt
    exact absurd hLt (Nat.not_lt_zero f)
  accepting := nofun
  conns := nofun

variable {f : Nat} {flow : Flow} {e : Event}

lemma Owned.newest_of_loud (hWF : WellFormed s) (hOwned : Owned s) (hLt : f < s.count)
  (hLoud : (s.flows f).quiet = false) : s.newest (s.flows f).key.sport = some f := by
  rcases hWF.accepted f hLt with ⟨n, hNewest⟩
  by_cases hEq : f = n
  · rw [hNewest, hEq]
  · have hQuiet := hOwned.quiet f n hLt hNewest hEq
    rw [hLoud] at hQuiet
    cases hQuiet

lemma Owned.setHandler (hOwned : Owned s)
  (handler : Handler) (hAccepting : ∀ seg isn app, handler = .accepting seg isn app →
  s.conns seg.sport = none ∧ s.Quiet seg.sport) : Owned (s.setHandler handler) :=
  { hOwned with accepting := hAccepting }

lemma Owned.removeConn (hOwned : Owned s) (port : UInt16) : Owned (s.removeConn port) :=
  { hOwned with
    accepting := by
      intro seg isn app hHandler
      rcases hOwned.accepting seg isn app hHandler with ⟨hFree, hQuiet⟩
      refine ⟨?_, hQuiet⟩
      by_cases hPort : seg.sport = port
      · simp [Bridge.removeConn, hPort]
      · simp [Bridge.removeConn, hPort, hFree]
    conns := by
      intro port' conn hConn
      exact hOwned.conns port' conn (conns_of_removeConn hConn) }

lemma quiet_setFlow (hQuiet : (s.flows f).quiet → flow.quiet)
  (g : Nat) (hOld : (s.flows g).quiet) : ((s.setFlow f flow).flows g).quiet := by
  by_cases hEq : g = f
  · subst hEq
    simpa [setFlow] using hQuiet hOld
  · simpa [setFlow, hEq] using hOld

lemma Owned.setFlow (hOwned : Owned s) (hKey : flow.key = (s.flows f).key)
  (hQuiet : (s.flows f).quiet → flow.quiet) : Owned (s.setFlow f flow) :=
  { hOwned with
    quiet := by
      intro g n hLt hNewest hNe
      rw [key_setFlow hKey] at hNewest
      exact quiet_setFlow hQuiet g (hOwned.quiet g n hLt hNewest hNe)
    accepting := by
      intro seg isn app hHandler
      rcases hOwned.accepting seg isn app hHandler with ⟨hFree, hPort⟩
      refine ⟨hFree, ?_⟩
      intro g hLt hSport
      rw [key_setFlow hKey] at hSport
      exact quiet_setFlow hQuiet g (hPort g hLt hSport) }

lemma Owned.accept {seg : Segment} {isn : UInt32} {app : Nat} (hOwned : Owned s)
  (hHandler : s.handler = .accepting seg isn app) : Owned (s.accept seg isn app) where
  quiet := by
    intro f n hLt hNewest hNe
    rcases hOwned.accepting seg isn app hHandler with ⟨-, hQuiet⟩
    by_cases hEq : f = s.count
    · subst hEq
      rw [flows_accept_self] at hNewest
      simp only [Bridge.accept, Flow.spawned, FlowKey.ofSyn, update_self, some.injEq] at hNewest
      exact absurd hNewest hNe
    · have hOld : f < s.count := Nat.lt_of_le_of_ne (Nat.le_of_lt_succ hLt) hEq
      rw [flows_accept_of_ne hEq] at hNewest ⊢
      by_cases hPort : (s.flows f).key.sport = seg.sport
      · exact hQuiet f hOld hPort
      · simp only [Bridge.accept, update_of_ne hPort] at hNewest
        exact hOwned.quiet f n hOld hNewest hNe
  accepting := nofun
  conns := by
    intro port conn hConn
    by_cases hPort : port = seg.sport
    · subst hPort
      simp only [Bridge.accept, update_self, some.injEq] at hConn ⊢
      rw [← hConn]
    · simp only [Bridge.accept, update_of_ne hPort] at hConn ⊢
      exact hOwned.conns port conn hConn

lemma Owned.install (hWF : WellFormed s) (hOwned : Owned s)
  (hTask : (s.flows f).task = .stored) (isn : UInt32) : Owned
    ((s.setFlow f (s.flows f).install).insertConn (s.flows f).key.sport
      { dataTx := some f, flow := f, isn := isn, connecting := false }) := by
  have hLoud : (s.flows f).quiet = false := by simp [Flow.quiet, hTask]
  have hLt := hWF.lt_count_of_stored hTask
  have hNewest := hOwned.newest_of_loud hWF hLt hLoud
  have hSet : Owned (s.setFlow f (s.flows f).install) := by
    apply hOwned.setFlow (s.flows f).key_install
    rw [hLoud]
    intro hQuiet
    cases hQuiet
  refine ⟨hSet.quiet, ?_, ?_⟩
  · intro seg isn' app hHandler
    rcases hOwned.accepting seg isn' app hHandler with ⟨hFree, hQuiet⟩
    have hNe : seg.sport ≠ (s.flows f).key.sport := by
      intro hPort
      have hDone := hQuiet f hLt hPort.symm
      rw [hLoud] at hDone
      cases hDone
    refine ⟨?_, (hSet.accepting seg isn' app hHandler).2⟩
    simpa [insertConn, Bridge.setFlow, hNe] using hFree
  · intro port conn hConn
    by_cases hPort : port = (s.flows f).key.sport
    · subst hPort
      simp only [insertConn, update_self, some.injEq] at hConn
      rw [← hConn]
      exact hNewest
    · simp only [insertConn, update_of_ne hPort] at hConn
      exact hOwned.conns port conn hConn

-- Steps And Runs

lemma owned_step (hWF : WellFormed s) (hOwned : Owned s) (hOk : s.Settles e)
  (hStep : Stepped s e s') : Owned s' := by
  cases hStep with
  | skip | refuse | repeatSyn => exact { hOwned with }
  | panic | lose | finish => exact hOwned.setHandler _ (by simp)
  | close apps =>
    have hApps : Owned { s with apps } := { hOwned with }
    exact hApps.removeConn _
  | @pass _ _ _ seg apps hIdle hSeg hOpens hPublic hFree =>
    have hApps : Owned { s with apps } := { hOwned with }
    apply hApps.setHandler
    rintro seg' isn' app' ⟨⟩
    exact ⟨hFree, (hOk seg hSeg).2 hOpens hPublic hFree⟩
  | @advance _ _ _ seg conn off apps hSeg hData hConn hConnected hIdle hAction =>
    have hSet : Owned ({ s with apps }.setFlow conn.flow ((s.flows conn.flow).storeAck seg.stop)) :=
      Owned.setFlow { hOwned with } rfl id
    exact hSet.setHandler _ (by simp)
  | hold apps =>
    have hApps : Owned { s with apps } := { hOwned with }
    exact hApps.setHandler _ (by simp)
  | accept hHandler => exact hOwned.accept hHandler
  | @enqueue _ _ f channel =>
    have hSet : Owned (s.setFlow f ((s.flows f).setChannel channel)) := hOwned.setFlow rfl id
    exact hSet.setHandler _ (by simp)
  | @acknowledge _ conn packet =>
    have hStamp : Owned (s.stamp conn.flow packet) := { hOwned with }
    exact hStamp.setHandler _ (by simp)
  | work _ hWorks => exact hOwned.setFlow hWorks.key hWorks.quiet
  | @send _ f flow _ _ hWorks =>
    have hSet : Owned (s.setFlow f flow) := hOwned.setFlow hWorks.key hWorks.quiet
    exact { hSet with }
  | install hTask => exact hOwned.install hWF hTask _
  | evict _ _ hWorks => exact (hOwned.setFlow hWorks.key hWorks.quiet).removeConn _

lemma Owned.actsFor_step {port : UInt16} {conn : TcpConn} (hWF : WellFormed s) (hOwned : Owned s)
  (hOk : s.Settles e) (hStep : Stepped s e s') (hConn : s.conns port = some conn)
  (hChanged : s'.conns port ≠ some conn) : s.ActsFor conn.flow e := by
  have hNewest := hOwned.conns port conn hConn
  cases hStep with
  | @close _ _ _ seg _ hSeg hCloses =>
    by_cases hPort : port = seg.sport
    · subst hPort
      have hApp := (hOk seg hSeg).1 hCloses (by simp [hConn]) conn.flow hNewest
      exact ⟨hApp, seg, hSeg, hCloses⟩
    · simp only [Bridge.removeConn, update_of_ne hPort] at hChanged
      exact absurd hConn hChanged
  | @accept seg _ _ hHandler =>
    -- the SYN's port was free, so this is another port
    by_cases hPort : port = seg.sport
    · subst hPort
      have hFree := (hOwned.accepting _ _ _ hHandler).1
      rw [hFree] at hConn
      cases hConn
    · simp only [Bridge.accept, update_of_ne hPort] at hChanged
      exact absurd hConn hChanged
  | @install f hTask =>
    by_cases hPort : port = (s.flows f).key.sport
    · subst hPort
      have hSelf := hOwned.newest_of_loud hWF (hWF.lt_count_of_stored hTask)
        (by simp [Flow.quiet, hTask])
      rw [hNewest] at hSelf
      exact (some.inj hSelf).symm
    · simp only [insertConn, update_of_ne hPort] at hChanged
      exact absurd hConn hChanged
  | @evict _ f _ hOf hWriter hWorks hLoud =>
    by_cases hPort : port = (s.flows f).key.sport
    · subst hPort
      have hSelf := hOwned.newest_of_loud hWF (hWF.lt_count hWorks.live) hLoud
      rw [hNewest] at hSelf
      have hEq : f = conn.flow := (some.inj hSelf).symm
      cases e with
      | packet | resume => exact hOf.elim
      | connect | reader => exact hOf.trans hEq
      | writer g e => exact absurd (by rw [hOf]) (hWriter e)
    · simp only [Bridge.removeConn, update_of_ne hPort] at hChanged
      exact absurd hConn hChanged
  | _ => exact absurd hConn hChanged

/-
  Ownership: along every run in which flows settle before their port is used again, an entry is
  always that of the newest SYN on its port, and only this flow's own connect task, its own reader
  or a FIN or RST of its connection replaces or removes it.
-/
theorem actsFor_of_conns_ne
    (s s' : Bridge)
    (e : Event)
    (hRun : Reaches step Settles init s)
    (hOk : s.Settles e)
    (hStep : s.step e = some s')
    (port : UInt16)
    (conn : TcpConn)
    (hConn : s.conns port = some conn) :
    s.newest port = some conn.flow ∧ (s'.conns port ≠ some conn → s.ActsFor conn.flow e) := by
  have hOwned : Owned s := hRun.invariant_of wellFormed_of_reaches owned_init
    (fun hWF hOwned hOk hStep => owned_step hWF hOwned hOk (stepped_of_step hStep))
  refine ⟨hOwned.conns port conn hConn, ?_⟩
  intro hChanged
  exact hOwned.actsFor_step (wellFormed_of_reaches hRun) hOk (stepped_of_step hStep) hConn hChanged

def rstFromApp (dstIp : Ipv4Addr) (seqNum : UInt32) : Segment :=
  { fromApp dstIp seqNum [] with isRst := true }

def resetFirst : Event := .packet (rstFromApp ⟨1, 1, 1, 1⟩ 101).encode 0 0

/- The connected flow's own RST removes its entry. -/
theorem actsFor_of_conns_ne_rst : ∃ (s s' : Bridge) (conn : TcpConn), s.step resetFirst = some s' ∧
  s.conns 5000 = some conn ∧ s'.conns 5000 ≠ some conn ∧ s.ActsFor conn.flow resetFirst := by
  rcases exists_reaches step Settles init (fun s =>
    s.Settles resetFirst ∧ s.conns 5000 = some ⟨some 0, 0, 7, false⟩ ∧
      (s.step resetFirst).any (fun s' => s'.conns 5000 = none))
    connectFirst (by decide +kernel) (by decide +kernel) with
    ⟨s, hRun, hEnd⟩
  rcases of_decide_eq_true hEnd with ⟨hOk, hConn, hAny⟩
  cases hStep : s.step resetFirst with
  | none => simp [hStep] at hAny
  | some s' =>
    have hGone : s'.conns 5000 = none := by simpa [hStep] using hAny
    have hChanged : s'.conns 5000 ≠ some ⟨some 0, 0, 7, false⟩ := by simp [hGone]
    have hActs := actsFor_of_conns_ne s s' resetFirst hRun hOk hStep 5000 _ hConn
    exact ⟨s, s', _, hStep, hConn, hChanged, hActs.2 hChanged⟩

/- The app closes its first connection and opens a second one on the same port. -/
theorem evicted_by_earlier_flow : ¬ ∀ (s s' : Bridge) (e : Event), Reaches step Disciplined init s →
  s.Disciplined e → s.step e = some s' → ∀ port n conn, s.newest port = some n →
  s.conns port = some conn → conn.flow = n → s'.conns port ≠ some conn → s.ActsFor n e := by
  intro hAll
  rcases exists_reaches step Disciplined init (fun s =>
    s.newest 5000 = some 1 ∧ s.conns 5000 = some ⟨none, 1, 8, true⟩ ∧
      (s.step (.connect 0 .evict)).any (fun s' => s'.conns 5000 = none))
    [.packet (synFromApp ⟨1, 1, 1, 1⟩ 100).encode 7 0, .resume, resetFirst,
      .packet (synFromApp ⟨2, 2, 2, 2⟩ 300).encode 8 1,
      .resume, .connect 0 .fail]
    (by decide +kernel) (by decide +kernel) with
    ⟨s, hRun, hEnd⟩
  rcases of_decide_eq_true hEnd with ⟨hNewest, hConn, hStep⟩
  cases hEvict : s.step (.connect 0 .evict) with
  | none => simp [hEvict] at hStep
  | some s' =>
    have hGone : s'.conns 5000 = none := by simpa [hEvict] using hStep
    have hActs : (0 : Nat) = 1 :=
      hAll s s' (.connect 0 .evict) hRun trivial hEvict 5000 1 _ hNewest hConn rfl (by simp [hGone])
    exact absurd hActs (by decide)

end Kourosh.Tun2socks.Bridge
