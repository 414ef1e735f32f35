import Kourosh.Udpgw.Relay

/-
  What the DNS relay delivers.

  A query is in the map, in the hands of one pump, or it is answered.

  Correctness is proven by:
    * `delivers`
-/

-- Frames And Queries

namespace Kourosh.Udpgw

open Run Tickets
open List
open Function
open Option

namespace Relay

variable {s s' : Relay} {e : Event}

def tokenSpace : Nat := 65536

/- Relayed replies fit the buffer, and a reply is matched before its token is drawn again. -/
def Proviso (s : Relay) : Event → Prop
| .receive _ (.relayed source port reply _) => (source.header port ++ reply).length ≤ udpBuffer
| .remove i =>
  match s.pumps i with
  | .received (.relayed _ _ _ use) _ => s.seq < use + tokenSpace
  | _ => True
| _ => True

instance (s : Relay) (e : Event) : Decidable (s.Proviso e) := by
  unfold Proviso
  split
  · infer_instance
  · split <;> infer_instance
  · infer_instance

/-
  The frame is the answer to the query: it has its flow, its address and its transaction id, and
  the rest is the reply that arrived.
-/
structure Answers (q : Query) (w : Written) : Prop where
  frame : w.frame =
    udpgwFrame q.conid q.isIpv6 q.clientAddress (q.payload.take 2 ++ w.arrival.reply.drop 2)
  own : ∀ use, w.arrival.use = some use → use = w.use
  length_lt : (udpgwBody q.conid q.isIpv6 q.clientAddress
    (q.payload.take 2 ++ w.arrival.reply.drop 2)).length < 65536

-- The Map

def Known (s : Relay) (n : Nat) : Prop := ∃ q, s.submitted n = some q

def Put (s : Relay) (n : Nat) : Prop := s.Known n ∧ s.submitter.unfiled ≠ some n

structure Filing (s : Relay) : Prop where
  once : s.tickets.Once
  known : ∀ n, s.tickets.Placed n → s.Known n
  key : ∀ token n, s.tickets.filed token = some n → token = dnsToken n
  bounded : ∀ n, s.Known n → n ≤ s.seq
  -- the query that is to be put is the last one
  latest :
    ∀ n, s.submitter.unfiled = some n → s.Known n ∧ ¬ s.tickets.Placed n ∧ ∀ m, s.Known m → m ≤ n
  -- and it displaces older ones only
  newest : ∀ n m, s.Put n → s.tickets.filed (dnsToken n) = some m → n ≤ m
  sending : ∀ n, s.submitter = .filed n ∨ s.submitter = .ordered n → s.Known n
  asked : ∀ pair ∈ s.asked, s.Put pair.1
  resending : ∀ n upstream, s.retry = .resending n upstream → s.Put n

lemma filing_init (seq preferred : Nat) : Filing (init seq preferred) where
  once := ⟨nofun, nofun, nofun, nofun, nofun, .nil⟩
  known := fun n hPlaced => absurd hPlaced (not_placed_empty n)
  key := nofun
  bounded := by
    rintro n ⟨q, hKnown⟩
    cases hKnown
  latest := nofun
  newest := nofun
  sending := by
    intro n hSending
    rcases hSending with hSending | hSending <;>
      cases hSending
  asked := nofun
  resending := nofun

lemma Filing.of_subset (hFiling : Filing s)
  (hOnce : s'.tickets.Once) (hPlaced : ∀ n, s'.tickets.Placed n → s.tickets.Placed n)
  (hFiled : ∀ token n, s'.tickets.filed token = some n → s.tickets.filed token = some n)
  (hSubmitted : s'.submitted = s.submitted)
  (hSeq : s.seq ≤ s'.seq) (hUnfiled : s'.submitter.unfiled = s.submitter.unfiled)
  (hSending : ∀ n, s'.submitter = .filed n ∨ s'.submitter = .ordered n → s.Known n)
  (hAsked : ∀ pair ∈ s'.asked, s.Put pair.1)
  (hResending : ∀ n upstream, s'.retry = .resending n upstream → s.Put n) : Filing s' := by
  have hKnown : ∀ n, s'.Known n ↔ s.Known n := by
    intro n
    rw [Known, Known, hSubmitted]
  have hPut : ∀ n, s'.Put n ↔ s.Put n := by
    intro n
    rw [Put, Put, hKnown, hUnfiled]
  refine ⟨hOnce, ?_, ?_, ?_, ?_, ?_, ?_, ?_, ?_⟩
  · intro n hPlaced'
    exact (hKnown n).mpr (hFiling.known n (hPlaced n hPlaced'))
  · intro token n hFiled'
    exact hFiling.key token n (hFiled token n hFiled')
  · intro n hKnown'
    exact Nat.le_trans (hFiling.bounded n ((hKnown n).mp hKnown')) hSeq
  · intro n hUnfiled'
    rw [hUnfiled] at hUnfiled'
    rcases hFiling.latest n hUnfiled' with ⟨hOwn, hNew, hLast⟩
    refine ⟨(hKnown n).mpr hOwn, ?_, ?_⟩
    · intro hPlaced'
      exact hNew (hPlaced n hPlaced')
    · intro m hKnown'
      exact hLast m ((hKnown m).mp hKnown')
  · intro n m hPut' hFiled'
    exact hFiling.newest n m ((hPut n).mp hPut') (hFiled _ m hFiled')
  · intro n hSending'
    exact (hKnown n).mpr (hSending n hSending')
  · intro pair hMem
    exact (hPut pair.1).mpr (hAsked pair hMem)
  · intro n upstream hRetry
    exact (hPut n).mpr (hResending n upstream hRetry)

lemma Filing.of_same (hFiling : Filing s) (hTickets : s'.tickets = s.tickets)
  (hSubmitted : s'.submitted = s.submitted) (hSeq : s.seq ≤ s'.seq)
  (hUnfiled : s'.submitter.unfiled = s.submitter.unfiled)
  (hSending : ∀ n, s'.submitter = .filed n ∨ s'.submitter = .ordered n → s.Known n)
  (hAsked : ∀ pair ∈ s'.asked, s.Put pair.1)
  (hResending : ∀ n upstream, s'.retry = .resending n upstream → s.Put n) : Filing s' := by
  refine hFiling.of_subset ?_ ?_ ?_ hSubmitted hSeq hUnfiled hSending hAsked hResending
  all_goals rw [hTickets]
  · exact hFiling.once
  · exact fun _ hPlaced => hPlaced
  · exact fun _ _ hFiled => hFiled

variable {q : Query} {now : Int} {i n use : Nat} {arrival : Arrival}
variable {payload : Bytes} {pump : Pump} {p : DnsPending}

lemma put_of_accept (hFiling : Filing s) (hPut : s.Put n) : (s.accept q now).Put n := by
  have hLe := hFiling.bounded n hPut.1
  rcases hPut.1 with ⟨q', hKnown⟩
  refine ⟨⟨q', ?_⟩, ?_⟩
  · simp only [accept]
    rw [update_of_ne (by omega)]
    exact hKnown
  · simp only [accept, Submitter.unfiled, ne_eq, some.injEq]
    omega

lemma filing_accept (hFiling : Filing s) (hIdle : s.submitter = .idle) :
  Filing (s.accept q now) := by
  have hKnown : ∀ n, (s.accept q now).Known n → n = s.seq + 1 ∨ s.Known n := by
    intro n hKnown
    by_cases hNew : n = s.seq + 1
    · exact .inl hNew
    · simp only [Known, accept, update_of_ne hNew] at hKnown
      exact .inr hKnown
  have hOwn : (s.accept q now).Known (s.seq + 1) := ⟨q, by simp only [accept, update_self]⟩
  have hOld : ∀ n, s.Known n → (s.accept q now).Known n := by
    intro n hKnown
    refine (put_of_accept hFiling ⟨hKnown, ?_⟩).1
    rw [hIdle]
    exact nofun
  refine ⟨hFiling.once, ?_, hFiling.key, ?_, ?_, ?_, ?_, ?_, ?_⟩
  · intro n hPlaced
    exact hOld n (hFiling.known n hPlaced)
  · intro n hKnown'
    change n ≤ s.seq + 1
    rcases hKnown n hKnown' with hNew | hOld'
    · omega
    · have hLe := hFiling.bounded n hOld'
      omega
  · intro n hUnfiled
    simp only [accept, Submitter.unfiled, some.injEq] at hUnfiled
    subst hUnfiled
    refine ⟨hOwn, ?_, ?_⟩
    · intro hPlaced
      have hLe := hFiling.bounded _ (hFiling.known _ hPlaced)
      omega
    · intro m hKnown'
      rcases hKnown m hKnown' with hNew | hOld'
      · omega
      · have hLe := hFiling.bounded m hOld'
        omega
  · intro n m hPut hFiled
    rcases hKnown n hPut.1 with hNew | hOld'
    · rw [hNew] at hPut
      exact absurd rfl hPut.2
    · refine hFiling.newest n m ⟨hOld', ?_⟩ hFiled
      rw [hIdle]
      exact nofun
  · intro n hSending
    rcases hSending with hSending | hSending <;>
      cases hSending
  · intro pair hMem
    exact put_of_accept hFiling (hFiling.asked pair hMem)
  · intro n upstream hRetry
    exact put_of_accept hFiling (hFiling.resending n upstream hRetry)

lemma filing_put (hFiling : Filing s) (hReady : s.submitter = .ready use) : Filing
  { s with tickets := s.tickets.file (dnsToken use) use, submitter := .filed use } := by
  have hUnfiled : s.submitter.unfiled = some use := by
    rw [hReady]
    rfl
  rcases hFiling.latest use hUnfiled with ⟨hOwn, hNew, hLast⟩
  have hPut : ∀ n, s.Put n → Put
    { s with tickets := s.tickets.file (dnsToken use) use, submitter := .filed use } n :=
    fun n hPut => ⟨hPut.1, nofun⟩
  refine ⟨once_file hFiling.once hNew _, ?_, ?_, hFiling.bounded, ?_, ?_, ?_, ?_, ?_⟩
  · intro n hPlaced
    rcases placed_file hPlaced with hEq | hOld
    · rw [hEq]
      exact hOwn
    · exact hFiling.known n hOld
  · intro token n hFiled
    rcases filed_file hFiled with ⟨hToken, hEq⟩ | ⟨-, hOld⟩
    · rw [hToken, hEq]
    · exact hFiling.key token n hOld
  · exact nofun
  · intro n m hPut' hFiled
    rcases filed_file hFiled with ⟨-, hEq⟩ | ⟨hToken, hOld⟩
    · rw [hEq]
      exact hLast n hPut'.1
    · refine hFiling.newest n m ⟨hPut'.1, ?_⟩ hOld
      rw [hUnfiled]
      intro hEq
      cases hEq
      exact hToken rfl
  · rintro n (hSending | hSending)
    · cases hSending
      exact hOwn
    · cases hSending
  · intro pair hMem
    exact hPut pair.1 (hFiling.asked pair hMem)
  · intro n upstream hRetry
    exact hPut n (hFiling.resending n upstream hRetry)

lemma mem_ask {upstream : Nat} {up : Bool} {pair : Nat × Nat}
  (hMem : pair ∈ (s.ask use upstream up).asked) : pair ∈ s.asked ∨ pair = (use, upstream) := by
  cases up with
  | false => exact .inl hMem
  | true =>
    rcases mem_append.mp hMem with hOld | hNew
    · exact .inl hOld
    · exact .inr (mem_singleton.mp hNew)

lemma Filing.asked_ask {use upstream : Nat} {up : Bool} (hFiling : Filing s) (hUse : s.Put use) :
  ∀ pair ∈ (s.ask use upstream up).asked, s.Put pair.1 := by
  intro pair hMem
  rcases mem_ask hMem with hOld | hNew
  · exact hFiling.asked pair hOld
  · rw [hNew]
    exact hUse

lemma ask_eq (s : Relay) (use upstream : Nat) (up : Bool) : s.ask use upstream up =
  { s with asked := (s.ask use upstream up).asked } := by
  cases up with
  | false | true => rfl

lemma filing_step (hFiling : Filing s) (hHeld : ∀ i use arrival payload, s.pumps i = .answering
  use arrival payload → s.tickets.taken i = some use) (hStep : Stepped s e s') : Filing s' := by
  cases hStep with
  | idle => exact hFiling
  | accepted hIdle => exact filing_accept hFiling hIdle
  | @sized _ _ submitter hFresh hUnfiled =>
    refine hFiling.of_same rfl rfl (Nat.le_refl _) ?_ ?_ hFiling.asked hFiling.resending
    · rw [hFresh]
      exact hUnfiled
    · intro n hSending
      rcases hSending with hSending | hSending <;>
      · change submitter = _ at hSending
        rw [hSending] at hUnfiled
        cases hUnfiled
  | @evicted _ token hEvicting =>
    refine hFiling.of_subset
      (once_withdraw hFiling.once token) (fun _ hPlaced => placed_withdraw hPlaced)
      (fun _ _ hFiled => filed_withdraw hFiled)
      rfl (Nat.le_refl _) ?_ ?_ hFiling.asked hFiling.resending
    · rw [hEvicting]
      rfl
    · intro n hSending
      rcases hSending with hSending | hSending <;>
        cases hSending
  | put hReady => exact filing_put hFiling hReady
  | @ordered use hFiled =>
    refine hFiling.of_same rfl rfl (Nat.le_refl _) ?_ ?_ hFiling.asked hFiling.resending
    · rw [hFiled]
      rfl
    · rintro n (hSending | hSending)
      · cases hSending
      · cases hSending
        exact hFiling.sending use (.inl hFiled)
  | @sent use _ _ hOrdered =>
    have hUse : s.Put use := by
      refine ⟨hFiling.sending use (.inr hOrdered), ?_⟩
      rw [hOrdered]
      exact nofun
    rw [ask_eq]
    refine hFiling.of_same rfl rfl (Nat.le_refl _) ?_ ?_ ?_ hFiling.resending
    · rw [hOrdered]
      rfl
    · intro n hSending
      rcases hSending with hSending | hSending <;>
        cases hSending
    · exact hFiling.asked_ask hUse
  | probed =>
    exact hFiling.of_same rfl rfl (Nat.le_succ _) rfl hFiling.sending hFiling.asked hFiling.resending
  | received | preferred =>
    exact hFiling.of_same rfl rfl (Nat.le_refl _) rfl hFiling.sending hFiling.asked hFiling.resending
  | removed =>
    exact hFiling.of_subset
      (once_take hFiling.once _ _) (fun _ hPlaced => placed_take hPlaced)
      (fun _ _ hFiled => filed_withdraw hFiled)
      rfl (Nat.le_refl _) rfl hFiling.sending hFiling.asked hFiling.resending
  | wrote hAnswering =>
    have hTaken := hHeld _ _ _ _ hAnswering
    exact hFiling.of_subset (once_finish hFiling.once hTaken)
      (fun _ hPlaced => placed_finish hTaken hPlaced)
      (fun _ _ hFiled => hFiled) rfl (Nat.le_refl _) rfl
      hFiling.sending hFiling.asked hFiling.resending
  | failed =>
    exact hFiling.of_subset (once_release hFiling.once _)
      (fun _ hPlaced => placed_release hPlaced) (fun _ _ hFiled => hFiled)
      rfl (Nat.le_refl _) rfl hFiling.sending hFiling.asked hFiling.resending
  | expiring =>
    refine hFiling.of_same rfl rfl (Nat.le_refl _) rfl hFiling.sending hFiling.asked ?_
    exact nofun
  | @retried _ _ use _ hFiled =>
    refine hFiling.of_same rfl rfl (Nat.le_refl _) rfl hFiling.sending hFiling.asked ?_
    intro n upstream' hRetry
    cases hRetry
    have hPlaced : s.tickets.Placed use := .filed hFiled
    refine ⟨hFiling.known use hPlaced, ?_⟩
    intro hUnfiled
    exact (hFiling.latest use hUnfiled).2.1 hPlaced
  | @expired token =>
    refine hFiling.of_subset
      (once_withdraw hFiling.once token) (fun _ hPlaced => placed_withdraw hPlaced)
      (fun _ _ hFiled => filed_withdraw hFiled)
      rfl (Nat.le_refl _) rfl hFiling.sending hFiling.asked ?_
    exact nofun
  | @resent use upstream _ hResending =>
    rw [ask_eq]
    refine hFiling.of_same rfl rfl (Nat.le_refl _) rfl hFiling.sending ?_ ?_
    · exact hFiling.asked_ask (hFiling.resending use upstream hResending)
    · exact nofun

lemma put_step (hFiling : Filing s) (hStep : Stepped s e s') (hPut : s.Put n) : s'.Put n := by
  cases hStep with
  | accepted => exact put_of_accept hFiling hPut
  | @sized _ _ submitter hFresh hUnfiled =>
    refine ⟨hPut.1, ?_⟩
    change submitter.unfiled ≠ some n
    rw [hUnfiled]
    have hNot := hPut.2
    rw [hFresh] at hNot
    exact hNot
  | evicted hEvicting =>
    refine ⟨hPut.1, ?_⟩
    have hNot := hPut.2
    rw [hEvicting] at hNot
    exact hNot
  | put | ordered => exact ⟨hPut.1, nofun⟩
  | sent =>
    rw [ask_eq]
    exact ⟨hPut.1, nofun⟩
  | resent =>
    rw [ask_eq]
    exact hPut
  | _ => exact hPut

lemma known_step (hFiling : Filing s) (hStep : Stepped s e s')
  (hKnown : s.submitted n = some q) : s'.submitted n = some q := by
  cases hStep with
  | accepted =>
    have hLe := hFiling.bounded n ⟨q, hKnown⟩
    simp only [accept]
    rw [update_of_ne (by omega)]
    exact hKnown
  | sent | resent =>
    rw [ask_eq]
    exact hKnown
  | _ => exact hKnown

lemma toNat_dnsToken (n : Nat) : (dnsToken n).toNat = n % tokenSpace := by
  rw [dnsToken, UInt16.toNat_ofNat', tokenSpace]

/-
  Under the token of a query that was put, the map holds that query or none, until the token is
  drawn again.
-/
lemma found_eq (hFiling : Filing s) (hPut : s.Put n)
  (hFiled : s.tickets.filed (dnsToken n) = some use)
  (hFresh : s.seq < n + tokenSpace) : n = use := by
  have hNewest := hFiling.newest n use hPut hFiled
  have hBounded := hFiling.bounded use (hFiling.known use (.filed hFiled))
  have hTokens := congrArg UInt16.toNat (hFiling.key _ use hFiled)
  rw [toNat_dnsToken, toNat_dnsToken, tokenSpace] at hTokens
  rw [tokenSpace] at hFresh
  omega

-- The Pumps

structure Carried (s : Relay) (arrival : Arrival) (payload : Bytes) : Prop where
  reply : payload = arrival.reply
  length_ge : 12 ≤ payload.length
  length_le : payload.length ≤ udpBuffer
  asked : ∀ use, arrival.use = some use → s.Put use ∧ u16At payload 0 = dnsToken use

def PumpSound (s : Relay) (i : Nat) : Pump → Prop
| .waiting => s.tickets.taken i = none
| .received arrival payload => s.tickets.taken i = none ∧ Carried s arrival payload
| .holding use arrival payload
| .answering use arrival payload =>
  s.tickets.taken i = some use ∧ Carried s arrival payload ∧
    ∀ own, arrival.use = some own → own = use

def Pumping (s : Relay) : Prop := ∀ i, s.PumpSound i (s.pumps i)

lemma Carried.mono (hCarried : Carried s arrival payload)
  (hPut : ∀ n, s.Put n → s'.Put n) : Carried s' arrival payload := { hCarried with
  asked := by
    intro use hUse
    rcases hCarried.asked use hUse with ⟨hOld, hToken⟩
    exact ⟨hPut use hOld, hToken⟩ }

lemma PumpSound.mono (hSound : s.PumpSound i pump) (hTaken : s'.tickets.taken i = s.tickets.taken i)
  (hPut : ∀ n, s.Put n → s'.Put n) : s'.PumpSound i pump := by
  cases pump with
  | waiting => exact hTaken.trans hSound
  | received => exact ⟨hTaken.trans hSound.1, hSound.2.mono hPut⟩
  | holding | answering => exact ⟨hTaken.trans hSound.1, hSound.2.1.mono hPut, hSound.2.2⟩

lemma Pumping.of_pump (hPumping : Pumping s) (hPumps : s'.pumps = update s.pumps i pump)
  (hOthers : ∀ j, j ≠ i → s'.tickets.taken j = s.tickets.taken j)
  (hPut : ∀ n, s.Put n → s'.Put n) (hOwn : s'.PumpSound i pump) : Pumping s' := by
  intro j
  rw [hPumps]
  by_cases hPump : j = i
  · rw [hPump, update_self]
    exact hOwn
  · rw [update_of_ne hPump]
    exact (hPumping j).mono (hOthers j hPump) hPut

lemma carried_of_arrives
  (hFiling : Filing s) (hOk : Proviso s (.receive i arrival)) (hArrives : s.Arrives i arrival)
  (hPayload : payloadOf arrival = some payload) : Carried s arrival payload := by
  rcases filter_eq_some_iff.mp hPayload with ⟨hSome, hLong⟩
  have hGe : 12 ≤ payload.length := of_decide_eq_true hLong
  have hReply : payload = arrival.reply := by
    cases arrival with
    | other =>
      simp only [Arrival.datagram] at hSome
      simp [Arrival.reply, hSome]
    | relayed source port reply =>
      have hFits : (source.header port ++ reply).length ≤ udpBuffer := hOk
      simp only [Arrival.datagram] at hSome
      rw [take_of_length_le hFits] at hSome
      exact eq_of_decapsulate_relayed hSome
  refine ⟨hReply, hGe, ?_, ?_⟩
  · exact Nat.le_trans (length_le_of_decapsulate hSome) (length_take_le _ _)
  · intro use hUse
    cases arrival with
    | other => cases hUse
    | relayed =>
      cases hUse
      rw [hReply]
      exact ⟨hFiling.asked _ hArrives.1, hArrives.2⟩

lemma pumping_removed (hFiling : Filing s) (hPumping : Pumping s)
  (hOk : Proviso s (.remove i)) (hReceived : s.pumps i = .received arrival payload) :
  Pumping (s.removeFor i arrival payload) := by
  have hSound := hPumping i
  rw [hReceived] at hSound
  rcases hSound with ⟨-, hCarried⟩
  refine hPumping.of_pump rfl (fun j hOther => update_of_ne hOther _ _) (fun _ hPut => hPut) ?_
  have hTaken :
    (s.removeFor i arrival payload).tickets.taken i = s.tickets.filed (u16At payload 0) :=
    update_self ..
  cases hFound : s.tickets.filed (u16At payload 0) with
  | none => exact hTaken.trans hFound
  | some =>
    refine ⟨hTaken.trans hFound, hCarried.mono (fun _ hPut => hPut), ?_⟩
    intro own hOwn
    rcases hCarried.asked own hOwn with ⟨hPut, hToken⟩
    rw [hToken] at hFound
    refine found_eq hFiling hPut hFound ?_
    cases arrival with
    | other => cases hOwn
    | relayed =>
      cases hOwn
      simp only [Proviso, hReceived] at hOk
      exact hOk

lemma pumping_step (hFiling : Filing s)
  (hPumping : Pumping s) (hOk : Proviso s e) (hStep : Stepped s e s') : Pumping s' := by
  have hPut : ∀ n, s.Put n → s'.Put n := fun n hPut => put_step hFiling hStep hPut
  cases hStep with
  | @received i _ _ hWaiting hArrives hPayload =>
    have hSound := hPumping i
    rw [hWaiting] at hSound
    exact hPumping.of_pump rfl
      (fun _ _ => rfl) hPut ⟨hSound, (carried_of_arrives hFiling hOk hArrives hPayload).mono hPut⟩
  | removed hReceived => exact pumping_removed hFiling hPumping hOk hReceived
  | @preferred i _ _ _ hHolding =>
    have hSound := hPumping i
    rw [hHolding] at hSound
    exact hPumping.of_pump rfl (fun _ _ => rfl) hPut ⟨hSound.1, hSound.2.1.mono hPut, hSound.2.2⟩
  | wrote | failed =>
    exact hPumping.of_pump rfl (fun j hOther => update_of_ne hOther _ _) hPut (update_self ..)
  | sent | resent =>
    intro i
    rw [ask_eq] at hPut ⊢
    exact (hPumping i).mono rfl hPut
  | _ =>
    intro i
    exact (hPumping i).mono rfl hPut

lemma Pumping.held (hPumping : Pumping s)
  (hAnswering : s.pumps i = .answering use arrival payload) : s.tickets.taken i = some use ∧
  Carried s arrival payload ∧ ∀ own, arrival.use = some own → own = use := by
  have hSound := hPumping i
  rw [hAnswering] at hSound
  exact hSound

-- What Is Written

structure IsFor (p : DnsPending) (q : Query) : Prop where
  conid : p.conid = q.conid
  isIpv6 : p.isIpv6 = q.isIpv6
  clientAddress : p.clientAddress = q.clientAddress
  originalId : p.originalId = u16At q.payload 0
  length_ge : 12 ≤ q.payload.length

structure Logged (s : Relay) : Prop where
  entries : ∀ n p, s.entries n = some p → ∃ q, s.submitted n = some q ∧ IsFor p q
  done : s.written.map Written.use = s.tickets.done
  written : ∀ w ∈ s.written, ∃ q, s.submitted w.use = some q ∧ Answers q w

lemma u16ToBe_u16At {bytes : Bytes} (hLong : 2 ≤ bytes.length) :
  u16ToBe (u16At bytes 0) = bytes.take 2 := by
  match bytes with
  | [] => simp at hLong
  | [a] => simp at hLong
  | a :: b :: rest => exact u16FromBe_eq_iff.mp rfl

lemma answers_of_frame (hFor : IsFor p q)
  (hCarried : Carried s arrival payload) (hOwn : ∀ own, arrival.use = some own → own = use) :
  Answers q ⟨use, arrival, p.frame payload⟩ where
  frame := by
    have hId := u16ToBe_u16At (Nat.le_trans (by omega) hFor.length_ge)
    simp [DnsPending.frame, hFor.conid, hFor.isIpv6, hFor.clientAddress, hFor.originalId, hId,
      hCarried.reply]
  own := hOwn
  length_lt := by
    have hAddress : q.clientAddress.length ≤ 18 := by
      rw [q.length_address]
      split <;> omega
    have hLe := hCarried.length_le
    have hReply := hCarried.reply
    rw [hReply, udpBuffer] at hLe
    simp only [udpgwBody, length_append, length_cons, length_nil, length_take, length_drop]
    omega

lemma Logged.of_same
  (hLogged : Logged s) (hKnown : ∀ n q, s.submitted n = some q → s'.submitted n = some q)
  (hEntries : ∀ n p, s'.entries n = some p → ∃ q, s'.submitted n = some q ∧ IsFor p q)
  (hDone : s'.tickets.done = s.tickets.done) (hWritten : s'.written = s.written) : Logged s' where
  entries := hEntries
  done := by
    rw [hWritten, hDone]
    exact hLogged.done
  written := by
    intro w hMem
    rw [hWritten] at hMem
    rcases hLogged.written w hMem with ⟨q, hQuery, hAnswers⟩
    exact ⟨q, hKnown _ q hQuery, hAnswers⟩

lemma entries_setEntry
  {f : DnsPending → DnsPending} (hLogged : Logged s) (hKeeps : ∀ p q, IsFor p q → IsFor (f p) q)
  (hEntry : (s.setEntry use f).entries n = some p) : ∃ q, s.submitted n = some q ∧ IsFor p q := by
  by_cases hUse : n = use
  · rw [hUse] at hEntry ⊢
    simp only [setEntry, update_self, map_eq_some_iff] at hEntry
    rcases hEntry with ⟨old, hOld, rfl⟩
    rcases hLogged.entries use old hOld with ⟨q, hQuery, hFor⟩
    exact ⟨q, hQuery, hKeeps old q hFor⟩
  · simp only [setEntry, update_of_ne hUse] at hEntry
    exact hLogged.entries n p hEntry

lemma logged_step (hFiling : Filing s)
  (hPumping : Pumping s) (hLogged : Logged s) (hStep : Stepped s e s') : Logged s' := by
  have hKnown : ∀ n q, s.submitted n = some q → s'.submitted n = some q :=
    fun n q hQuery => known_step hFiling hStep hQuery
  cases hStep with
  | @accepted q _ _ hLong =>
    refine hLogged.of_same hKnown ?_ rfl rfl
    intro n p hEntry
    by_cases hNew : n = s.seq + 1
    · rw [hNew] at hEntry ⊢
      simp only [accept, update_self, some.injEq] at hEntry ⊢
      subst hEntry
      exact ⟨q, rfl, rfl, rfl, rfl, rfl, hLong⟩
    · simp only [accept, update_of_ne hNew] at hEntry ⊢
      exact hLogged.entries n p hEntry
  | ordered | retried =>
    refine hLogged.of_same hKnown ?_ rfl rfl
    intro n p hEntry
    refine entries_setEntry (s := s) hLogged ?_ hEntry
    intro old q hFor
    exact { hFor with }
  | @wrote _ use _ _ p hAnswering hEntry =>
    rcases hPumping.held hAnswering with ⟨-, hCarried, hOwn⟩
    rcases hLogged.entries use p hEntry with ⟨q, hQuery, hFor⟩
    refine ⟨hLogged.entries, ?_, ?_⟩
    · change (s.written ++ [_]).map Written.use = s.tickets.done ++ [use]
      rw [map_append, hLogged.done]
      rfl
    · exact forall_mem_append.mpr ⟨hLogged.written,
        forall_mem_singleton.mpr ⟨q, hQuery, answers_of_frame hFor hCarried hOwn⟩⟩
  | sent | resent =>
    rw [ask_eq] at hKnown ⊢
    exact hLogged.of_same hKnown hLogged.entries rfl rfl
  | _ => exact hLogged.of_same hKnown hLogged.entries rfl rfl

-- Whole Runs

structure Sound (s : Relay) : Prop where
  filing : Filing s
  pumping : Pumping s
  logged : Logged s

lemma sound_of_reaches
  {seq preferred : Nat} (hRun : Reaches step Proviso (init seq preferred) s) : Sound s := by
  refine hRun.invariant ⟨filing_init seq preferred, fun _ => rfl, ⟨nofun, rfl, nofun⟩⟩ ?_
  intro s s' e hSound hOk hStep
  have hStepped := stepped_of_step hStep
  refine ⟨?_, ?_, ?_⟩
  · exact filing_step hSound.filing (fun _ _ _ _ hAnswering =>
      (hSound.pumping.held hAnswering).1) hStepped
  · exact pumping_step hSound.filing hSound.pumping hOk hStepped
  · exact logged_step hSound.filing hSound.pumping hSound.logged hStepped

/-
  Delivery: in every run of the threads of a stream, every frame answers a query that was
  submitted, and no query is answered by two frames.
-/
theorem delivers
    {seq preferred : Nat}
    (hRun : Reaches step Proviso (init seq preferred) s) :
    (∀ w ∈ s.written, ∃ q, s.submitted w.use = some q ∧ Answers q w) ∧
    (s.written.map Written.use).Nodup := by
  have hSound := sound_of_reaches hRun
  refine ⟨hSound.logged.written, ?_⟩
  rw [hSound.logged.done]
  exact hSound.filing.once.nodup

def lookup (conid : UInt16) : Query where
  conid := conid
  isIpv6 := false
  clientAddress := [10, 0, 0, 1, 0, 53]
  payload := [0xab, 0xcd, 1, 0, 0, 1, 0, 0, 0, 0, 0, 0, 7]
  length_address := rfl

def reply (use : Nat) : Arrival :=
  .relayed
    (.v4 ⟨1, 1, 1, 1⟩) 53 (u16ToBe (dnsToken use) ++ [0x81, 0x80, 0, 1, 0, 1, 0, 0, 0, 0, 42]) use

/-
  Two queries, one of them asked again, the replies in the other order and one of them twice; the
  token wraps around.
-/
theorem delivers_around_wrap : ∃ s : Relay, s.written.map Written.use = [65536, 65535] ∧
  (∀ w ∈ s.written, ∃ q, s.submitted w.use = some q ∧ Answers q w) ∧
  (s.written.map Written.use).Nodup := by
  rcases exists_reaches step Proviso (init 65534 0) (fun s =>
    decide (s.written.map Written.use = [65536, 65535]))
    [.submit (lookup 7) 0, .sizeUp none, .put, .order,
      .send true, .submit (lookup 8) 100, .sizeUp none, .put,
      .visit 65535 1300, .order, .resend true, .send true,
      .receive 0 (reply 65536), .receive 1 (reply 65535),
      .remove 0, .remove 1, .prefer 0, .prefer 1,
      .write 0 true, .receive 0 (reply 65535), .remove 0,
      .write 1 true]
    (by decide +kernel) (by decide +kernel) with
    ⟨s, hRun, hEnd⟩
  exact ⟨s, of_decide_eq_true hEnd, delivers hRun⟩

end Relay

end Kourosh.Udpgw
