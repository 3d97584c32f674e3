import MeshTelemetry.Proofs.Receiver.Journal

/-!
# MeshTelemetry.Proofs.Receiver.Jammed

Receivers that have refused a source. Where there is room for everything, bytes are refused only by
what nothing can ever be written to; what was refused stays pending, and so the receiver can never
be flushed.

* `Store.Refuses`: where nothing can be written; `FileOutput.Jammed`: something is pending there.
* `Receiver.receive_jammed`: a tree that refuses a source is jammed, and stays so.
* `Receiver.flush_jammed`: a jammed tree is not flushed, and stays jammed.
* `FileOutput.receive_dropped`: where there is too little room, a receiver may refuse a source and
  have nothing pending.
-/

namespace MeshTelemetry

/-- Nothing can be written there. -/
def Store.Refuses (s : Store) (loc : Location) : Prop :=
  s.node? loc = some .fullDevice ∨ s.node? loc = some .directory

namespace Store

variable {s s' : Store} {loc : Location} {bytes : Bytes}

theorem Refuses.append (h : s.Refuses loc) (hbytes : bytes ≠ []) :
    ∃ e, s.append loc bytes = (.error (e, 0), s) := by
  unfold Store.append
  rcases h with hnode | hnode
  · refine ⟨.noSpace, ?_⟩
    rw [hnode]
    simp only [List.isEmpty_iff, if_neg hbytes]
  · rw [hnode]
    exact ⟨.isDirectory, rfl⟩

theorem append_accepts (h : ¬ s.Refuses loc) (hroom : s.shortages = []) (bytes : Bytes) :
    ∃ s', s.append loc bytes = (.ok (), s') ∧ ¬ s'.Refuses loc ∧ s'.shortages = [] := by
  cases hnode : s.node? loc with
  | none =>
    rw [append, hnode]
    exact ⟨s, rfl, h, hroom⟩
  | some node =>
    cases node with
    | file c =>
      refine ⟨_, append_all hroom hnode bytes, ?_, hroom⟩
      rw [Refuses, node?_put (file_ne_root hnode), if_pos rfl]
      rintro (heq | heq) <;> cases heq
    | nullDevice =>
      rw [append, hnode]
      exact ⟨s, rfl, h, hroom⟩
    | fullDevice => exact absurd (.inl hnode) h
    | directory => exact absurd (.inr hnode) h

theorem lasts_refuses (loc : Location) : Lasts (fun _ => True) (·.Refuses loc) := by
  have hfull : Lasts (fun _ => True) (·.node? loc = some .fullDevice) :=
    lasts_node fun _ _ _ => nofun
  have hdirectory : Lasts (fun _ => True) (·.node? loc = some .directory) :=
    lasts_node fun _ _ _ => nofun
  exact fun s other bytes hother =>
    Or.imp (hfull s other bytes hother) (hdirectory s other bytes hother)

/-- Where nothing could be written, nothing can be, and where there was room there is. -/
structure Firm (s s' : Store) : Prop where
  refuses : ∀ loc, s.Refuses loc → s'.Refuses loc
  room : s.shortages = [] → s'.shortages = []

end Store

namespace Buffered

variable {σ ε : Type} {device : Device σ ε} {s : σ} {b : Buffered}

/-- A device that takes nothing in this state. -/
def Refused (device : Device σ ε) (s : σ) : Prop :=
  ∀ bytes, bytes ≠ [] → ∃ e, device bytes s = (.error (e, 0), s)

theorem flush_refused (hd : Refused device s) (hb : b.pending ≠ #[]) :
    ∃ e, b.flush device s = (.error e, b, s) := by
  obtain ⟨e, he⟩ := hd b.pending.toList (by simpa using hb)
  refine ⟨e, ?_⟩
  rw [flush, if_neg (by simpa using hb), he]
  rfl

/-- Something is pending afterwards if it was before, or if the bytes are few. -/
theorem write_refused (bytes : Bytes) (hd : Refused device s)
    (hb : b.pending ≠ #[] ∨ bytes ≠ [] ∧ bytes.length < capacity) :
    ∃ o b', b.write device bytes s = (o, b', s) ∧ b'.pending ≠ #[] := by
  have hkeep : (b.keep bytes).pending ≠ #[] := by
    intro hnil
    have happend : b.pending.toList ++ bytes = [] := by
      rw [← Array.toList_appendList]
      exact congrArg Array.toList hnil
    obtain ⟨hpending, rfl⟩ := List.append_eq_nil_iff.mp happend
    rcases hb with hb | ⟨hbytes, -⟩
    · exact hb (Array.toList_eq_nil_iff.mp hpending)
    · exact hbytes rfl
  have hcapacity : 0 < capacity := by decide
  unfold write
  split
  · exact ⟨_, _, rfl, hkeep⟩
  · split
    · next hlong =>
      have hpending : b.pending ≠ #[] := by
        rcases hb with hb | ⟨-, hsmall⟩
        · exact hb
        · intro hnil
          rw [spare, hnil] at hlong
          exact absurd hsmall (Nat.not_lt_of_lt hlong)
      obtain ⟨e, he⟩ := flush_refused hd hpending
      exact ⟨_, b, by rw [he], hpending⟩
    · unfold place
      split
      · next hlong =>
        obtain ⟨e, he⟩ := hd bytes (by rintro rfl; exact absurd hlong (Nat.not_le_of_lt hcapacity))
        refine ⟨_, b, by rw [he], ?_⟩
        rcases hb with hb | ⟨-, hsmall⟩
        · exact hb
        · exact absurd hlong (Nat.not_le_of_lt hsmall)
      · exact ⟨_, _, rfl, hkeep⟩

theorem writeAll_refused (hd : Refused device s) (pieces : List Bytes) :
    ∀ {b : Buffered}, b.pending ≠ #[] →
      ∃ o b', b.writeAll device pieces s = (o, b', s) ∧ b'.pending ≠ #[] := by
  induction pieces with
  | nil => exact fun {b} hb => ⟨_, b, rfl, hb⟩
  | cons bytes pieces ih =>
    intro b hb
    obtain ⟨o, b1, hwrite, hb1⟩ := write_refused bytes hd (.inl hb)
    rw [writeAll, hwrite]
    cases o with
    | error e => exact ⟨_, b1, rfl, hb1⟩
    | ok u => exact ih hb1

end Buffered

namespace FileOutput

variable {f : FileOutput} {h : Host}

/-- Something is pending that can never be written. -/
def Jammed (f : FileOutput) (s : Store) : Prop :=
  s.Refuses f.location ∧ f.buffer.pending ≠ #[]

theorem device_refused {loc : Location} (hr : h.store.Refuses loc) :
    Buffered.Refused (device loc) h := by
  intro bytes hbytes
  obtain ⟨e, he⟩ := hr.append hbytes
  exact ⟨e, by rw [device, he]⟩

/-- The text of a source begins with a brace, which is pending by the time anything is refused. -/
theorem receive_refused (hr : h.store.Refuses f.location) (source : Source) :
    ∃ o f', f.receive source h = (o, f', h) ∧ f'.Jammed h.store := by
  have hd := device_refused hr
  obtain ⟨pieces, hpieces⟩ : ∃ pieces, source.toJson.pieces.map Text.encode =
      Text.encode "\x7b" :: pieces := ⟨_, rfl⟩
  have hbrace : Text.encode "\x7b" ≠ [] ∧
      (Text.encode "\x7b").length < Buffered.capacity := by decide
  obtain ⟨o, b1, hwrite, hb1⟩ :=
    Buffered.write_refused (b := f.buffer) (Text.encode "\x7b") hd (.inr hbrace)
  simp only [receive, hpieces, Buffered.writeAll, hwrite]
  cases o with
  | error e => exact ⟨_, { f with buffer := b1 }, rfl, hr, hb1⟩
  | ok u =>
    obtain ⟨o, b2, hall, hb2⟩ := Buffered.writeAll_refused hd pieces hb1
    obtain ⟨o', b3, hlast, hb3⟩ := Buffered.write_refused (Text.encode "\n") hd (.inl hb2)
    simp only [hall]
    cases o with
    | error e => exact ⟨_, { f with buffer := b2 }, rfl, hr, hb2⟩
    | ok u =>
      simp only [hlast]
      cases o' <;> exact ⟨_, { f with buffer := b3 }, rfl, hr, hb3⟩

/-- Everything can be written to the file, whatever was. -/
def Open (loc : Location) (_ : Bytes) (h : Host) : Prop :=
  ¬ h.store.Refuses loc ∧ h.store.shortages = []

theorem device_open (loc : Location) :
    Faithful (device loc) (Open loc) ∧ Accepting (device loc) (Open loc) := by
  constructor
  · intro bytes _ h hopen
    obtain ⟨s', happend, hopen'⟩ := Store.append_accepts hopen.1 hopen.2 bytes
    rw [device, happend]
    exact hopen'
  · intro bytes _ h hopen
    obtain ⟨s', happend, -⟩ := Store.append_accepts hopen.1 hopen.2 bytes
    rw [device, happend]

theorem receive_accepted (hopen : ¬ h.store.Refuses f.location) (hroom : h.store.shortages = [])
    (source : Source) : (f.receive source h).1 = .done () := by
  obtain ⟨hfaithful, haccepting⟩ := device_open f.location
  have hstart : Open f.location [] h := ⟨hopen, hroom⟩
  obtain ⟨_, _, -, hafter, -⟩ := Buffered.writeAll_keeps hfaithful
    (source.toJson.pieces.map Text.encode) f.buffer hstart
  have hall := Buffered.writeAll_accepted hfaithful haccepting
    (source.toJson.pieces.map Text.encode) f.buffer hstart
  unfold receive
  simp only
  generalize f.buffer.writeAll (device f.location) _ h = answer at hafter hall ⊢
  obtain ⟨o, b1, h1⟩ := answer
  cases hall
  have hlast := Buffered.write_accepted hfaithful haccepting hafter b1 (Text.encode "\n")
  simp only at hlast ⊢
  generalize b1.write (device f.location) _ h1 = answer at hlast ⊢
  obtain ⟨o, b2, h2⟩ := answer
  cases hlast
  rfl

theorem flush_jammed (hj : f.Jammed h.store) : ∃ e, f.flush h = (.failed e, f, h) := by
  obtain ⟨e, he⟩ := Buffered.flush_refused (device_refused hj.1) hj.2
  exact ⟨.io e, by rw [flush, he]⟩

theorem receive_small (source : Source) (hsmall : source.bytes.length < f.buffer.spare)
    (h : Host) :
    ∃ buffer, f.receive source h = (.done (), { f with buffer }, h) ∧
      buffer.pending.toList = f.buffer.pending.toList ++ source.bytes := by
  rw [← flatten_pieces, List.length_append] at hsmall
  have hflatten := flatten_pieces source
  generalize hpieces : source.toJson.pieces.map Text.encode = pieces at hsmall hflatten
  have hcollected : ∃ b1, f.buffer.writeAll (device f.location) pieces h = (.ok (), b1, h) ∧
      b1.pending.toList = f.buffer.pending.toList ++ pieces.flatten :=
    Buffered.writeAll_small pieces h (Nat.lt_of_le_of_lt (Nat.le_add_right _ _) hsmall)
  obtain ⟨b1, hall, hb1⟩ := hcollected
  have hlast : (Text.encode "\n").length < b1.spare := by
    rw [Buffered.spare, ← Array.length_toList] at hsmall ⊢
    rw [hb1, List.length_append]
    omega
  refine ⟨b1.keep (Text.encode "\n"), ?_, ?_⟩
  · simp only [receive, hpieces, hall, Buffered.write_small hlast]
  · rw [Buffered.keep, Array.toList_appendList, hb1, List.append_assoc, hflatten]

/-- Where the next write has room for what is pending and the one behind it has none, a source with
a piece as long as the buffer is refused, and then nothing is pending. -/
theorem receive_dropped {source : Source} {c : Content} {room : Nat} {rest : Shortages}
    {front back : List Bytes} {long : Bytes} (hnode : h.store.node? f.location = some (.file c))
    (hshort : h.store.shortages = room :: 0 :: rest) (hroom : Buffered.capacity ≤ room)
    (hpieces : source.toJson.pieces.map Text.encode = front ++ long :: back)
    (hfront : front.flatten.length < f.buffer.spare) (hne : front.flatten ≠ [])
    (hlong : Buffered.capacity ≤ long.length) :
    ∃ h', f.receive source h =
      (.failed (.receiver f.name IoFault.noSpace.message), { f with buffer := .empty }, h') := by
  have hpending : (f.buffer.pending.toList ++ front.flatten).length ≤ room := by
    rw [Buffered.spare, ← Array.length_toList] at hfront
    rw [List.length_append]
    omega
  have hmore : long ≠ [] := by
    rintro rfl
    exact absurd hlong (by decide)
  obtain ⟨s1, s2, hsent, hrefused⟩ := Store.append_short hnode hshort hpending hmore
  let h1 : Host := { h with store := s1 }
  let h2 : Host := { h with store := s2 }
  have hfirst : device f.location (f.buffer.pending.toList ++ front.flatten) h = (.ok (), h1) := by
    simp only [device, hsent, h1]
  have hsecond : device f.location long h1 = (.error (.noSpace, 0), h2) := by
    simp only [device, h1, hrefused, h2]
  have hall : f.buffer.writeAll (device f.location) (front ++ long :: back) h =
      (.error .noSpace, .empty, h2) :=
    Buffered.writeAll_dropped hfront hlong (by simp [hne]) hfirst hsecond
  exact ⟨h2, by simp only [receive, hpieces, hall]⟩

end FileOutput

/-- A file receiver that is jammed. -/
def Output.Jammed (s : Store) : Output → Prop
  | .file f => f.Jammed s
  | _ => False

mutual

/-- A receiver of the tree is jammed. -/
def Receiver.Jammed (s : Store) : Receiver Output → Prop
  | .sink o => o.Jammed s
  | .set _ members => members.Jammed s

def Members.Jammed (s : Store) : Members Output → Prop
  | .none => False
  | .more r _ _ rest => r.Jammed s ∨ rest.Jammed s

end

namespace Output

variable {o o' : Output} {h h' : Host} {answer : Outcome Fault Unit}

/-- Whoever refuses a source is jammed, and whoever is jammed stays so. -/
theorem receive_jammed {source : Source} (hr : o.receive source h = (answer, o', h'))
    (hj : o.Jammed h.store ∨ h.store.shortages = [] ∧ ∃ e, answer = .failed e) :
    o'.Jammed h'.store := by
  cases o with
  | log name =>
    cases hr
    rcases hj with hj | ⟨-, e, ⟨⟩⟩
    exact hj.elim
  | memory name sources =>
    cases hr
    rcases hj with hj | ⟨-, e, ⟨⟩⟩
    exact hj.elim
  | file f =>
    have hrefuses : h.store.Refuses f.location := by
      rcases hj with hj | ⟨hroom, e, rfl⟩
      · exact hj.1
      · refine Classical.byContradiction fun hopen => ?_
        have hdone := FileOutput.receive_accepted hopen hroom source
        simp only [receive, Prod.mk.injEq] at hr
        rw [hr.1] at hdone
        cases hdone
    obtain ⟨a, f', hreceive, hjammed⟩ := FileOutput.receive_refused hrefuses source
    simp only [receive, hreceive] at hr
    cases hr
    exact hjammed

theorem flush_jammed (hj : o.Jammed h.store) : ∃ e, o.flush h = (.failed e, o, h) := by
  cases o with
  | log name => exact hj.elim
  | memory name sources => exact hj.elim
  | file f =>
    obtain ⟨e, he⟩ := FileOutput.flush_jammed hj
    exact ⟨e, by rw [flush, he]⟩

end Output

namespace Store.Firm

theorem receive (r : Receiver Output) (source : Source) (h : Host) :
    Firm h.store (r.receive source h).2.2.store where
  refuses loc := (Output.keeps_store (lasts_refuses loc)).receive (r := r) source
  room := (Output.keeps_store lasts_room).receive (r := r) source

theorem flush (r : Receiver Output) (h : Host) : Firm h.store (r.flush h).2.2.store where
  refuses loc := (Output.keeps_store (lasts_refuses loc)).flush (r := r)
  room := (Output.keeps_store lasts_room).flush (r := r)

end Store.Firm

theorem Output.Jammed.firm {o : Output} {s s' : Store} (hj : o.Jammed s) (hfirm : s.Firm s') :
    o.Jammed s' := by
  cases o with
  | log name => exact hj
  | memory name sources => exact hj
  | file f => exact ⟨hfirm.refuses _ hj.1, hj.2⟩

mutual

theorem Receiver.Jammed.firm {s s' : Store} (hfirm : s.Firm s') :
    ∀ {r : Receiver Output}, r.Jammed s → r.Jammed s'
  | .sink _, hj => Output.Jammed.firm hj hfirm
  | .set _ _, hj => Members.Jammed.firm hfirm hj

theorem Members.Jammed.firm {s s' : Store} (hfirm : s.Firm s') :
    ∀ {members : Members Output}, members.Jammed s → members.Jammed s'
  | .more _ _ _ _, hj =>
    hj.imp (fun h => Receiver.Jammed.firm hfirm h) fun h => Members.Jammed.firm hfirm h

end

theorem Store.Firm.receiveAll (members : Members Output) (source : Source) (h : Host) :
    Firm h.store (members.receive source h).2.2.store :=
  Store.Firm.receive (.set "" members) source h

theorem Store.Firm.flushAll (members : Members Output) (h : Host) :
    Firm h.store (members.flush h).2.2.store :=
  Store.Firm.flush (.set "" members) h

mutual

theorem Receiver.receive_jammed (source : Source) : ∀ {r r' : Receiver Output} {h h' : Host}
    {answer : Outcome Fault Unit}, r.receive source h = (answer, r', h') →
      (r.Jammed h.store ∨ h.store.shortages = [] ∧ ∃ e, answer = .failed e) →
        r'.Jammed h'.store
  | .sink o, _, h, _, _, hr, hj => by
    rw [Receiver.receive] at hr
    rcases hs : Sink.receive o source h with ⟨a, o', h1⟩
    rw [hs] at hr
    cases hr
    exact Output.receive_jammed hs hj
  | .set name members, _, h, _, _, hr, hj => by
    rw [Receiver.receive] at hr
    rcases hs : members.receive source h with ⟨a, members', h1⟩
    rw [hs] at hr
    cases hr
    exact Members.receive_jammed source hs hj

/-- By recursion on the members: one that is jammed already stays so while the others are offered
the source, and one that refuses it is jammed then. -/
theorem Members.receive_jammed (source : Source) : ∀ {members members' : Members Output}
    {h h' : Host} {answer : Outcome Fault Unit}, members.receive source h = (answer, members', h') →
      (members.Jammed h.store ∨ h.store.shortages = [] ∧ ∃ e, answer = .failed e) →
        members'.Jammed h'.store
  | .none, _, _, _, _, hr, hj => by
    cases hr
    rcases hj with hj | ⟨-, e, ⟨⟩⟩
    exact hj.elim
  | .more r received failures rest, _, h, _, _, hr, hj => by
    rw [Members.receive] at hr
    have hfirm := Store.Firm.receive r source h
    rcases hfirst : r.receive source h with ⟨a, r1, h1⟩
    rw [hfirst] at hr hfirm
    cases a with
    | failed e =>
      cases hr
      have hjammed : r1.Jammed h1.store ∨ rest.Jammed h1.store := by
        rcases hj with (hj | hj) | ⟨hroom, -⟩
        · exact .inl (Receiver.receive_jammed source hfirst (.inl hj))
        · exact .inr (Members.Jammed.firm hfirm hj)
        · exact .inl (Receiver.receive_jammed source hfirst (.inr ⟨hroom, e, rfl⟩))
      exact hjammed
    | crashed message =>
      cases hr
      rcases hj with (hj | hj) | ⟨-, e, ⟨⟩⟩
      · exact .inl (Receiver.receive_jammed source hfirst (.inl hj))
      · exact .inr (Members.Jammed.firm hfirm hj)
    | done u =>
      have hfirm1 := Store.Firm.receiveAll rest source h1
      simp only at hr
      rcases hrest : rest.receive source h1 with ⟨a, rest1, h2⟩
      rw [hrest] at hr hfirm1
      cases hr
      rcases hj with (hj | hj) | ⟨hroom, hfailed⟩
      · exact .inl (Receiver.Jammed.firm hfirm1 (Receiver.receive_jammed source hfirst (.inl hj)))
      · exact .inr (Members.receive_jammed source hrest (.inl (Members.Jammed.firm hfirm hj)))
      · exact .inr (Members.receive_jammed source hrest (.inr ⟨hfirm.room hroom, hfailed⟩))

end

mutual

theorem Receiver.flush_jammed : ∀ {r r' : Receiver Output} {h h' : Host}
    {answer : Outcome Fault Unit}, r.flush h = (answer, r', h') → r.Jammed h.store →
      answer ≠ .done () ∧ r'.Jammed h'.store
  | .sink o, _, h, _, _, hr, hj => by
    obtain ⟨e, he⟩ := Output.flush_jammed hj
    have hs : Sink.flush o h = (.failed e, o, h) := he
    rw [Receiver.flush, hs] at hr
    cases hr
    exact ⟨nofun, hj⟩
  | .set name members, _, h, _, _, hr, hj => by
    rw [Receiver.flush] at hr
    rcases hs : members.flush h with ⟨a, members', h1⟩
    rw [hs] at hr
    cases hr
    exact Members.flush_jammed hs hj

theorem Members.flush_jammed : ∀ {members members' : Members Output} {h h' : Host}
    {answer : Outcome Fault Unit}, members.flush h = (answer, members', h') →
      members.Jammed h.store → answer ≠ .done () ∧ members'.Jammed h'.store
  | .more r received failures rest, _, h, _, _, hr, hj => by
    rw [Members.flush] at hr
    have hfirm := Store.Firm.flush r h
    rcases hfirst : r.flush h with ⟨a, r1, h1⟩
    rw [hfirst] at hr hfirm
    -- the first member or one of the others, which it has left as they were
    have hleft : a ≠ .done () ∧ r1.Jammed h1.store ∨ rest.Jammed h1.store :=
      hj.imp (Receiver.flush_jammed hfirst) (Members.Jammed.firm hfirm)
    cases a with
    | crashed message =>
      cases hr
      exact ⟨nofun, hleft.imp And.right id⟩
    | done u =>
      simp only at hr
      rcases hrest : rest.flush h1 with ⟨a, rest1, h2⟩
      rw [hrest] at hr
      cases hr
      rcases hleft with ⟨hne, -⟩ | hleft
      · exact absurd rfl hne
      · obtain ⟨hne, hjammed⟩ := Members.flush_jammed hrest hleft
        exact ⟨hne, .inr hjammed⟩
    | failed e =>
      have hfirm1 := Store.Firm.flushAll rest (logFlushFailure r1 e h1)
      simp only at hr
      rcases hrest : rest.flush (logFlushFailure r1 e h1) with ⟨a, rest1, h2⟩
      rw [hrest] at hr hfirm1
      have hjammed : r1.Jammed h2.store ∨ rest1.Jammed h2.store :=
        hleft.imp (fun h => Receiver.Jammed.firm hfirm1 h.2)
          fun h => (Members.flush_jammed hrest h).2
      cases a <;> cases hr <;> exact ⟨nofun, hjammed⟩

end

end MeshTelemetry
