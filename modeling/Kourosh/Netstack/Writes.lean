import Kourosh.Netstack.Handles

/-
  The connections behind a write of the tables.

  A write touches one connection and leaves every other one, entry and socket, as it is: no other
  entry has its handle.
-/

-- Connections Behind A Write

namespace Kourosh.Netstack.Tables

variable {α : Type} {m : AList fun _ : Nat => α} {v w : α} {t : Tables} {id j slot : Nat} {c d : Conn}
  {sock' : UdpSocket} {t' : Tables}

lemma lookup_of_insert (hLookup : (m.insert id v).lookup j = some w) (hNew : w ≠ v) :
  m.lookup j = some w := by
  by_cases hKey : j = id
  · subst hKey
    rw [AList.lookup_insert] at hLookup
    exact absurd (Option.some.inj hLookup).symm hNew
  · rwa [AList.lookup_insert_ne hKey] at hLookup

lemma lookup_of_erase (hLookup : (m.erase id).lookup j = some w) :
  j ≠ id ∧ m.lookup j = some w := by
  have hKey : j ≠ id := by
    rintro rfl
    rw [AList.lookup_erase] at hLookup
    cases hLookup
  exact ⟨hKey, by rwa [AList.lookup_erase_ne hKey] at hLookup⟩

lemma conn_of_putTcp (hCons : (t.putTcp id c).Consistent)
  (hConn : (t.putTcp id c).conn j = some d) : j = id ∧ d = c ∨ j ≠ id ∧ t.conn j = some d := by
  rcases conn_eq_some_iff.mp hConn with ⟨hEntry, hSock⟩
  have hId : (t.putTcp id c).tcpConns.lookup id = some c.entry := by simp [putTcp]
  by_cases hKey : j = id
  · subst hKey
    have hSame : d.entry = c.entry := Option.some.inj (hEntry.symm.trans hId)
    rw [hSame] at hSock
    have hWritten : d.sock = c.sock := by simpa [putTcp] using hSock.symm
    exact .inl ⟨rfl, Conn.ext hSame hWritten⟩
  · have hHandle : d.entry.handle ≠ c.entry.handle := by
      intro hSame
      have hSlot := handle_tcp hEntry
      rw [hSame] at hSlot
      have hKeys := hCons.distinct hSlot (handle_tcp hId)
      exact hKey (Key.tcp.inj hKeys)
    refine .inr ⟨hKey, conn_eq_some_iff.mpr ⟨?_, ?_⟩⟩
    · simpa [putTcp, hKey] using hEntry
    · simpa [putTcp, hHandle] using hSock

lemma udpConn_of_putUdp {c d : UdpConn} (hCons : (t.putUdp id c).Consistent)
  (hConn : (t.putUdp id c).udpConn j = some d) :
  j = id ∧ d = c ∨ j ≠ id ∧ t.udpConn j = some d := by
  rcases udpConn_eq_some_iff.mp hConn with ⟨hEntry, hSock⟩
  have hId : (t.putUdp id c).udpConns.lookup id = some c.entry := by simp [putUdp]
  by_cases hKey : j = id
  · subst hKey
    have hSame : d.entry = c.entry := Option.some.inj (hEntry.symm.trans hId)
    rw [hSame] at hSock
    have hWritten : d.sock = c.sock := by simpa [putUdp] using hSock.symm
    exact .inl ⟨rfl, UdpConn.ext hSame hWritten⟩
  · have hHandle : d.entry.handle ≠ c.entry.handle := by
      intro hSame
      have hSlot := handle_udp hEntry
      rw [hSame] at hSlot
      have hKeys := hCons.distinct hSlot (handle_udp hId)
      exact hKey (Key.udp.inj hKeys)
    refine .inr ⟨hKey, udpConn_eq_some_iff.mpr ⟨?_, ?_⟩⟩
    · simpa [putUdp, hKey] using hEntry
    · simpa [putUdp, hHandle] using hSock

lemma conn_of_udp (hConn : t'.conn j = some d)
  (hSame : t'.tcpConns = t.tcpConns) (hPut : t'.sockets = t.sockets.insert slot (.udp sock')) :
  t.conn j = some d := by
  rcases conn_eq_some_iff.mp hConn with ⟨hEntry, hSock⟩
  rw [hSame] at hEntry
  rw [hPut] at hSock
  exact conn_eq_some_iff.mpr ⟨hEntry, lookup_of_insert hSock nofun⟩

/- A write to the socket of another kind. -/
lemma udpConn_of_tcp {sock' : TcpSocket} {d : UdpConn}
  (hConn : t'.udpConn j = some d) (hSame : t'.udpConns = t.udpConns)
  (hPut : t'.sockets = t.sockets.insert slot (.tcp sock')) : t.udpConn j = some d := by
  rcases udpConn_eq_some_iff.mp hConn with ⟨hEntry, hSock⟩
  rw [hSame] at hEntry
  rw [hPut] at hSock
  exact udpConn_eq_some_iff.mpr ⟨hEntry, lookup_of_insert hSock nofun⟩

lemma conn_of_removeTcp (hConn : (t.removeTcp id slot).conn j = some d) :
  j ≠ id ∧ t.conn j = some d := by
  rcases conn_eq_some_iff.mp hConn with ⟨hEntry, hSock⟩
  rcases lookup_of_erase hEntry with ⟨hKey, hOld⟩
  exact ⟨hKey, conn_eq_some_iff.mpr ⟨hOld, (lookup_of_erase hSock).2⟩⟩

lemma udpConn_of_removeUdp {d : UdpConn}
  (hConn : (t.removeUdp id slot).udpConn j = some d) : j ≠ id ∧ t.udpConn j = some d := by
  rcases udpConn_eq_some_iff.mp hConn with ⟨hEntry, hSock⟩
  rcases lookup_of_erase hEntry with ⟨hKey, hOld⟩
  exact ⟨hKey, udpConn_eq_some_iff.mpr ⟨hOld, (lookup_of_erase hSock).2⟩⟩

lemma conn_of_removeUdp (hConn : (t.removeUdp id slot).conn j = some d) : t.conn j = some d := by
  rcases conn_eq_some_iff.mp hConn with ⟨hEntry, hSock⟩
  exact conn_eq_some_iff.mpr ⟨hEntry, (lookup_of_erase hSock).2⟩

lemma udpConn_of_removeTcp
  {d : UdpConn} (hConn : (t.removeTcp id slot).udpConn j = some d) : t.udpConn j = some d := by
  rcases udpConn_eq_some_iff.mp hConn with ⟨hEntry, hSock⟩
  exact udpConn_eq_some_iff.mpr ⟨hEntry, (lookup_of_erase hSock).2⟩

lemma conn_of_setTcpEntry {entry entry' : TcpState} (hEntry : t.tcpConns.lookup id = some entry)
  (hConn : (t.setTcpEntry id entry').conn j = some d) (hHandle : entry'.handle = entry.handle) :
  (∃ c, j = id ∧ t.conn id = some c ∧ c.entry = entry ∧ d = c.setEntry entry') ∨
  j ≠ id ∧ t.conn j = some d := by
  rcases conn_eq_some_iff.mp hConn with ⟨hNew, hSock⟩
  by_cases hKey : j = id
  · subst hKey
    have hWritten : d.entry = entry' := by simpa [setTcpEntry] using hNew.symm
    have hOld : t.conn j = some ⟨entry, d.sock⟩ := by
      rw [hWritten, hHandle] at hSock
      exact conn_eq_some_iff.mpr ⟨hEntry, hSock⟩
    refine .inl ⟨⟨entry, d.sock⟩, rfl, hOld, rfl, ?_⟩
    rw [← hWritten]
    rfl
  · refine .inr ⟨hKey, conn_eq_some_iff.mpr ⟨?_, hSock⟩⟩
    simpa [setTcpEntry, hKey] using hNew

lemma udpConn_of_setUdpEntry
  {entry entry' : UdpState} {d : UdpConn} (hEntry : t.udpConns.lookup id = some entry)
  (hConn : (t.setUdpEntry id entry').udpConn j = some d)
  (hHandle : entry'.handle = entry.handle) : (∃ c, j = id ∧ t.udpConn id = some c ∧
  c.entry = entry ∧ d = ⟨entry', c.sock⟩) ∨ j ≠ id ∧ t.udpConn j = some d := by
  rcases udpConn_eq_some_iff.mp hConn with ⟨hNew, hSock⟩
  by_cases hKey : j = id
  · subst hKey
    have hWritten : d.entry = entry' := by simpa [setUdpEntry] using hNew.symm
    have hOld : t.udpConn j = some ⟨entry, d.sock⟩ := by
      rw [hWritten, hHandle] at hSock
      exact udpConn_eq_some_iff.mpr ⟨hEntry, hSock⟩
    refine .inl ⟨⟨entry, d.sock⟩, rfl, hOld, rfl, ?_⟩
    rw [← hWritten]
  · refine .inr ⟨hKey, udpConn_eq_some_iff.mpr ⟨?_, hSock⟩⟩
    simpa [setUdpEntry, hKey] using hNew

lemma conn_of_setSocket {sock sock' : TcpSocket} (hOld : t.sockets.lookup slot = some (.tcp sock))
  (hConn : (t.setSocket slot (.tcp sock')).conn j = some d) :
  (∃ c, t.conn j = some c ∧ c.sock = sock ∧ d = c.setSock sock') ∨ t.conn j = some d := by
  rcases conn_eq_some_iff.mp hConn with ⟨hEntry, hSock⟩
  by_cases hSlot : d.entry.handle = slot
  · subst hSlot
    have hWritten : d.sock = sock' := by simpa [setSocket] using hSock.symm
    refine .inl ⟨⟨d.entry, sock⟩, conn_eq_some_iff.mpr ⟨hEntry, hOld⟩, rfl, ?_⟩
    rw [← hWritten]
    rfl
  · refine .inr (conn_eq_some_iff.mpr ⟨hEntry, ?_⟩)
    simpa [setSocket, hSlot] using hSock

lemma udpConn_of_setSocket
  {sock : UdpSocket} {d : UdpConn} (hOld : t.sockets.lookup slot = some (.udp sock))
  (hConn : (t.setSocket slot (.udp sock')).udpConn j = some d) :
  (∃ c, t.udpConn j = some c ∧ c.sock = sock ∧ d = ⟨c.entry, sock'⟩) ∨ t.udpConn j = some d := by
  rcases udpConn_eq_some_iff.mp hConn with ⟨hEntry, hSock⟩
  by_cases hSlot : d.entry.handle = slot
  · subst hSlot
    have hWritten : d.sock = sock' := by simpa [setSocket] using hSock.symm
    refine .inl ⟨⟨d.entry, sock⟩, udpConn_eq_some_iff.mpr ⟨hEntry, hOld⟩, rfl, ?_⟩
    rw [← hWritten]
  · refine .inr (udpConn_eq_some_iff.mpr ⟨hEntry, ?_⟩)
    simpa [setSocket, hSlot] using hSock

end Kourosh.Netstack.Tables
