import FauxmoLinux.Base.Descriptors
import FauxmoLinux.Base.Run

/-!
The descriptors of the program, and the threads that use them.

`TCPSocket::Receive` closes its socket behind its loop and then calls `onSocketClosed`, which
`enable` sets to a function that closes it again. Between the two the number is free.

* `Spot`, `Spot.call`, `Spot.next`: the code that uses a descriptor, one call at a time: the
  two sockets that listen, `Receive` with its two `Close`, and `get_mac_addr` and `get_ip_addr`;
* `Sockets.step`: one call of one thread, or a descriptor that is opened;
* `Sockets.Clean`: a thread in front of its first `close` has its own object behind its number,
  and one behind it nothing;
* `Sockets.isolated_iff`: no thread can read from, write to or close what belongs to another one
  exactly as long as no descriptor is opened under a number that a thread between its two `Close`
  still has.
-/

namespace FauxmoLinux

/-- A system call on a descriptor. -/
inductive SysCall where
  | use
  | shutdown
  | close
  deriving DecidableEq, Repr

/-- Where the code that uses a descriptor stands. -/
inductive Spot where
  /-- in the accept loop or in `UDPSocket::ReceiveFrom`, which do not end -/
  | serve
  /-- in the loop of `TCPSocket::Receive` -/
  | receive
  /-- in `BaseSocket::Close`, called by `Receive`, and then by `onSocketClosed` -/
  | shutdown (again : Bool)
  | close (again : Bool)
  /-- in `get_mac_addr` or `get_ip_addr` -/
  | ioctl
  | closeProbe
  | done
  deriving DecidableEq, Repr

/-- The call that is made at a place. -/
def Spot.call : Spot → Option SysCall
  | .serve => some .use
  | .receive => some .use
  | .shutdown _ => some .shutdown
  | .close _ => some .close
  | .ioctl => some .use
  | .closeProbe => some .close
  | .done => none

/-- Where the code stands behind the call. The loop of `Receive` is left: `recv` has returned no
byte. -/
def Spot.next : Spot → Spot
  | .serve => .serve
  | .receive => .shutdown false
  | .shutdown again => .close again
  | .close false => .shutdown true
  | .close true => .done
  | .ioctl => .closeProbe
  | .closeProbe => .done
  | .done => .done

/-- A thread that has a descriptor. -/
structure User where
  fd : ℕ
  place : Spot
  deriving DecidableEq, Repr

/-- The descriptors of the process and the threads that have them. What a number stands for is the
object that the thread with that index was started for. -/
structure Sockets where
  table : DescriptorTable ℕ
  users : List User
  deriving DecidableEq, Repr

/-- A call, and the object it was made on. -/
structure Touch where
  user : ℕ
  call : SysCall
  object : Option ℕ
  deriving DecidableEq, Repr

/-- What can happen next: `accept` returns a connection, `get_mac_addr` or `get_ip_addr` opens
its socket, or a thread makes its next call, in the loop of `Receive` one that goes round. -/
inductive SocketInput where
  | accept
  | socket
  | again (user : ℕ)
  | go (user : ℕ)
  deriving DecidableEq, Repr

namespace Sockets

/-- A descriptor is opened, and a thread starts at the given place. -/
def opened (s : Sockets) (place : Spot) : Sockets :=
  { table := s.table.insert s.users.length
    users := s.users ++ [⟨s.table.lowestFree, place⟩] }

/-- The thread makes the call of its place and goes on to the next one. -/
def called (s : Sockets) (i : ℕ) (u : User) (next : Spot) : Sockets × List Touch :=
  match u.place.call with
  | none => (s, [])
  | some call =>
      ({ table := if call = .close then s.table.release u.fd else s.table
         users := s.users.set i ⟨u.fd, next⟩ },
        [⟨i, call, s.table.owner u.fd⟩])

/-- One step of the program. -/
def step (s : Sockets) : SocketInput → Except Fault (Sockets × List Touch)
  | .accept => .ok (s.opened .receive, [])
  | .socket => .ok (s.opened .ioctl, [])
  | .again i =>
      match s.users[i]? with
      | some u => .ok (if u.place = .receive then s.called i u .receive else (s, []))
      | none => .ok (s, [])
  | .go i =>
      match s.users[i]? with
      | some u => .ok (s.called i u u.place.next)
      | none => .ok (s, [])

/-- The sockets `enable` makes, and whatever else is open all the time. -/
def start (n : ℕ) : Sockets :=
  { table := ⟨(List.range n).map some⟩
    users := (List.range n).map fun fd => ⟨fd, .serve⟩ }

end Sockets

/-- A descriptor is opened. -/
def SocketInput.Opens (a : SocketInput) : Prop := a = .accept ∨ a = .socket

instance (a : SocketInput) : Decidable a.Opens := inferInstanceAs (Decidable (_ ∨ _))

/-- The thread stands between its two `Close`: it has closed its number and keeps it. -/
def Spot.Between (p : Spot) : Prop := p = .shutdown true ∨ p = .close true

instance (p : Spot) : Decidable p.Between := inferInstanceAs (Decidable (_ ∨ _))

/-- The thread has not closed its number. -/
def Spot.Holds (p : Spot) : Prop := p ≠ .done ∧ ¬ p.Between

instance (p : Spot) : Decidable p.Holds := inferInstanceAs (Decidable (_ ∧ _))

/-- The call was made on the object of the thread itself, or on nothing. -/
def Touch.Own (t : Touch) : Prop := t.object = none ∨ t.object = some t.user

namespace Sockets

variable {s s' : Sockets} {i : ℕ} {u : User} {a : SocketInput} {touches : List Touch}

/-! ### The invariant -/

/-- A thread that has not closed its number has its own object behind it, and one between its two
`Close` nothing. -/
structure Clean (s : Sockets) : Prop where
  holds : ∀ (i : ℕ) (u : User), s.users[i]? = some u → u.place.Holds → s.table.owner u.fd = some i
  between : ∀ (i : ℕ) (u : User), s.users[i]? = some u → u.place.Between → s.table.owner u.fd = none

lemma clean_start (n : ℕ) : (start n).Clean := by
  have huser : ∀ i u, (start n).users[i]? = some u → i < n ∧ u = ⟨i, .serve⟩ := by
    intro i u hu
    obtain ⟨hi, rfl⟩ := List.getElem?_eq_some_iff.mp hu
    simp only [start, List.length_map, List.length_range] at hi
    simp [start, hi]
  refine ⟨fun i u hu _ => ?_, fun i u hu hb => ?_⟩
  · obtain ⟨hi, rfl⟩ := huser i u hu
    simp [start, DescriptorTable.owner, hi]
  · obtain ⟨-, rfl⟩ := huser i u hu
    rcases hb with hb | hb <;> cases hb

/-- Where a thread stands when it makes a call: in front of its first `close`, or between. -/
lemma holds_or_between {p : Spot} {call : SysCall} (h : p.call = some call) :
    p.Holds ∨ p.Between := by
  by_cases hb : p.Between
  · exact Or.inr hb
  · refine Or.inl ⟨?_, hb⟩
    rintro rfl
    cases h

/-- The number of a thread that makes a call stands for its own object or for nothing. -/
lemma Clean.owner_cases (h : s.Clean) (hu : s.users[i]? = some u) {call : SysCall}
    (hcall : u.place.call = some call) :
    s.table.owner u.fd = some i ∨ s.table.owner u.fd = none := by
  rcases holds_or_between hcall with hh | hb
  · exact Or.inl (h.holds i u hu hh)
  · exact Or.inr (h.between i u hu hb)

/-- The places a thread can go on to. -/
def Goes (p q : Spot) : Prop := q = p.next ∨ p = .receive ∧ q = .receive

/-- A call that is no `close` changes nothing about the number. -/
lemma Goes.same {p q : Spot} (h : Goes p q) (hcall : p.call ≠ some .close)
    (hdone : p.call ≠ none) : (q.Holds ↔ p.Holds) ∧ (q.Between ↔ p.Between) := by
  rcases h with rfl | ⟨rfl, rfl⟩
  · cases p with
    | serve => exact ⟨Iff.rfl, Iff.rfl⟩
    | receive => exact ⟨by decide, by decide⟩
    | shutdown again => cases again <;> exact ⟨by decide, by decide⟩
    | close again => exact absurd rfl hcall
    | ioctl => exact ⟨by decide, by decide⟩
    | closeProbe => exact absurd rfl hcall
    | done => exact absurd rfl hdone
  · exact ⟨Iff.rfl, Iff.rfl⟩

/-- Behind a `close` no number is held. -/
lemma Goes.not_holds {p q : Spot} (h : Goes p q) (hcall : p.call = some .close) :
    ¬ q.Holds := by
  rcases h with rfl | ⟨rfl, rfl⟩
  · cases p with
    | close again => cases again <;> decide
    | closeProbe => decide
    | _ => cases hcall
  · cases hcall

/-- **One call** on one's own object leaves the numbers of all threads clean. -/
lemma Clean.called (h : s.Clean) (hu : s.users[i]? = some u) {q : Spot} (hgo : Goes u.place q) :
    (s.called i u q).1.Clean ∧ ∀ t ∈ (s.called i u q).2, t.Own := by
  rw [Sockets.called]
  cases hcall : u.place.call with
  | none => exact ⟨h, by simp⟩
  | some call =>
      have howner := h.owner_cases hu hcall
      refine ⟨?_, by simpa [Touch.Own] using howner.symm⟩
      have hlt : i < s.users.length := (List.getElem?_eq_some_iff.mp hu).1
      have huser : ∀ {j v}, (s.users.set i ⟨u.fd, q⟩)[j]? = some v →
          (j = i ∧ v = ⟨u.fd, q⟩) ∨ (j ≠ i ∧ s.users[j]? = some v) := by
        intro j v hv
        rw [List.getElem?_set] at hv
        by_cases hij : i = j
        · subst hij
          exact Or.inl ⟨rfl, by simpa [hlt, eq_comm] using hv⟩
        · rw [if_neg hij] at hv
          exact Or.inr ⟨Ne.symm hij, hv⟩
      by_cases hclose : call = .close
      · subst hclose
        simp only [if_true]
        refine ⟨fun j v hv hh => ?_, fun j v hv hb => ?_⟩
        · rcases huser hv with ⟨rfl, rfl⟩ | ⟨hji, hv⟩
          · exact absurd hh (hgo.not_holds hcall)
          · -- another thread with this number would have its own object behind it
            have hown := h.holds j v hv hh
            have hfd : v.fd ≠ u.fd := fun hfd => by
              rw [hfd] at hown
              rcases howner with ho | ho <;> rw [ho] at hown
              · exact hji (Option.some.inj hown).symm
              · cases hown
            rw [DescriptorTable.owner_release, if_neg hfd, hown]
        · rw [DescriptorTable.owner_release]
          split
          · rfl
          · rename_i hfd
            rcases huser hv with ⟨rfl, rfl⟩ | ⟨-, hv⟩
            · exact absurd rfl hfd
            · exact h.between j v hv hb
      · have hsame := hgo.same (by rw [hcall]; simpa using hclose) (by simp [hcall])
        simp only [if_neg hclose]
        refine ⟨fun j v hv hh => ?_, fun j v hv hb => ?_⟩
        · rcases huser hv with ⟨rfl, rfl⟩ | ⟨-, hv⟩
          · exact h.holds j u hu (hsame.1.mp hh)
          · exact h.holds j v hv hh
        · rcases huser hv with ⟨rfl, rfl⟩ | ⟨-, hv⟩
          · exact h.between j u hu (hsame.2.mp hb)
          · exact h.between j v hv hb

/-- **One step** that opens nothing. -/
lemma Clean.step (h : s.Clean) (ha : ¬ a.Opens) (hok : s.step a = .ok (s', touches)) :
    s'.Clean ∧ ∀ t ∈ touches, t.Own := by
  cases a with
  | accept => exact absurd (Or.inl rfl) ha
  | socket => exact absurd (Or.inr rfl) ha
  | again i =>
      rw [Sockets.step] at hok
      cases hu : s.users[i]? with
      | none =>
          rw [hu] at hok
          cases hok
          exact ⟨h, by simp⟩
      | some u =>
          rw [hu] at hok
          dsimp only at hok
          split at hok
          · rename_i hrec
            have hcalled : s.called i u .receive = (s', touches) := Except.ok.inj hok
            have hkept := h.called hu (Or.inr ⟨hrec, rfl⟩ : Goes u.place .receive)
            rwa [hcalled] at hkept
          · cases hok
            exact ⟨h, by simp⟩
  | go i =>
      rw [Sockets.step] at hok
      cases hu : s.users[i]? with
      | none =>
          rw [hu] at hok
          cases hok
          exact ⟨h, by simp⟩
      | some u =>
          rw [hu] at hok
          have hcalled : s.called i u u.place.next = (s', touches) := Except.ok.inj hok
          have hkept := h.called hu (Or.inl rfl : Goes u.place u.place.next)
          rwa [hcalled] at hkept

/-- A step that opens a descriptor starts a thread with it. -/
lemma step_opens (ha : a.Opens) (hok : s.step a = .ok (s', touches)) :
    ∃ place : Spot, place.Holds ∧ s' = s.opened place ∧ touches = [] := by
  rcases ha with rfl | rfl
  · cases hok
    exact ⟨.receive, by decide, rfl, rfl⟩
  · cases hok
    exact ⟨.ioctl, by decide, rfl, rfl⟩

lemma users_opened {place : Spot} {j : ℕ} {v : User}
    (hv : (s.opened place).users[j]? = some v) :
    s.users[j]? = some v ∨ j = s.users.length ∧ v = ⟨s.table.lowestFree, place⟩ := by
  rcases Nat.lt_trichotomy j s.users.length with hlt | rfl | hgt
  · rw [opened, List.getElem?_append_left hlt] at hv
    exact Or.inl hv
  · rw [opened, List.getElem?_append_right le_rfl] at hv
    exact Or.inr ⟨rfl, by simpa [eq_comm] using hv⟩
  · rw [opened, List.getElem?_eq_none (by simpa using hgt)] at hv
    cases hv

/-- A number that no thread between its two `Close` has is safe to open. -/
lemma Clean.opened (h : s.Clean) {place : Spot} (hholds : place.Holds)
    (hfree : ∀ u ∈ s.users, u.place.Between → u.fd ≠ s.table.lowestFree) :
    (s.opened place).Clean := by
  refine ⟨fun j v hv hh => ?_, fun j v hv hb => ?_⟩
  · rw [Sockets.opened, DescriptorTable.owner_insert]
    rcases users_opened hv with hv | ⟨rfl, rfl⟩
    · have hown := h.holds j v hv hh
      have hfd : v.fd ≠ s.table.lowestFree := fun hfd => by
        rw [hfd, DescriptorTable.owner_lowestFree] at hown
        cases hown
      rw [if_neg hfd, hown]
    · rw [if_pos rfl]
  · rw [Sockets.opened, DescriptorTable.owner_insert]
    rcases users_opened hv with hv | ⟨rfl, rfl⟩
    · rw [if_neg (hfree v (List.mem_of_getElem? hv) hb), h.between j v hv hb]
    · exact absurd hb hholds.2

/-! ### Runs -/

/-- Whatever the threads do next while nothing is opened, every call is made on the object of its
thread or on nothing. -/
def Isolated (s : Sockets) : Prop :=
  ∀ as : List SocketInput, (∀ a ∈ as, ¬ a.Opens) → ∀ s' touches,
    runs Sockets.step s as = .ok (s', touches) → ∀ t ∈ touches, t.Own

lemma Clean.isolated (h : s.Clean) : s.Isolated := by
  intro as
  induction as generalizing s with
  | nil =>
      rintro - s' touches hrun
      cases hrun
      simp
  | cons a as ih =>
      intro has s' touches hrun
      rw [List.forall_mem_cons] at has
      obtain ⟨s₁, o₁, o₂, hstep, hrest, rfl⟩ := runs_cons_ok.mp hrun
      obtain ⟨h₁, hown⟩ := h.step has.1 hstep
      intro t ht
      rcases List.mem_append.mp ht with ht | ht
      · exact hown t ht
      · exact ih h₁ has.2 s' o₂ hrest t ht

/-- A number that is opened while a thread between its two `Close` has it: that thread can shut
down or close what the number stands for next. -/
lemma not_isolated_opened {place : Spot} (hu : u ∈ s.users) (hb : u.place.Between)
    (hfd : u.fd = s.table.lowestFree) : ¬ (s.opened place).Isolated := by
  intro hiso
  obtain ⟨j, hj⟩ := List.mem_iff_getElem?.mp hu
  have hlt : j < s.users.length := (List.getElem?_eq_some_iff.mp hj).1
  have hj' : (s.opened place).users[j]? = some u := by
    rw [Sockets.opened, List.getElem?_append_left hlt, hj]
  have howner : (s.opened place).table.owner u.fd = some s.users.length := by
    rw [Sockets.opened, DescriptorTable.owner_insert, if_pos hfd]
  obtain ⟨call, hcall⟩ : ∃ call, u.place.call = some call := by
    rcases hb with hb | hb <;> exact ⟨_, by rw [hb]; rfl⟩
  have hstep : (s.opened place).step (.go j) =
      .ok ((s.opened place).called j u u.place.next) := by
    rw [Sockets.step, hj']
  have htouch : (⟨j, call, some s.users.length⟩ : Touch) ∈
      ((s.opened place).called j u u.place.next).2 := by
    rw [Sockets.called, hcall, howner]
    simp
  have hown := hiso [.go j] (by simp [SocketInput.Opens]) _ _
    ((runs_singleton _ _).trans hstep) _ htouch
  rcases hown with hown | hown
  · cases hown
  · exact absurd (Option.some.inj hown) hlt.ne'

/-- Behind the step the threads are isolated. -/
def IsolatedAfter (_ : Sockets) (_ : SocketInput) (s' : Sockets) (_ : List Touch) : Prop :=
  s'.Isolated

/-- The step opens no number that a thread between its two `Close` has. -/
def OpensFree (s : Sockets) (a : SocketInput) (_ : Sockets) (_ : List Touch) : Prop :=
  a.Opens → ∀ u ∈ s.users, u.place.Between → u.fd ≠ s.table.lowestFree

/-- A step from a clean state that opens no such number leads to a clean one. -/
lemma Clean.of_opensFree (h : s.Clean) (hok : s.step a = .ok (s', touches))
    (hfree : OpensFree s a s' touches) : s'.Clean := by
  by_cases ha : a.Opens
  · obtain ⟨place, hholds, rfl, -⟩ := step_opens ha hok
    exact h.opened hholds (hfree ha)
  · exact (h.step ha hok).1

/-- **Isolation**: in every state of a run no thread can touch what belongs to another one,
exactly when no step opens a descriptor under a number that a thread still has between its two
`Close`. -/
theorem isolated_iff (n : ℕ) (as : List SocketInput) :
    EveryStep Sockets.step IsolatedAfter (start n) as ↔
      EveryStep Sockets.step OpensFree (start n) as := by
  have hiff : ∀ s a s' touches, s.Clean → Sockets.step s a = .ok (s', touches) →
      (IsolatedAfter s a s' touches ↔ OpensFree s a s' touches) := by
    intro s a s' touches h hok
    constructor
    · intro hiso ha u hu hb hfd
      obtain ⟨place, -, rfl, -⟩ := step_opens ha hok
      exact not_isolated_opened hu hb hfd hiso
    · exact fun hfree => (h.of_opensFree hok hfree).isolated
  exact everyStep_congr (I := Clean)
    (fun s a s' o h hok hiso => h.of_opensFree hok ((hiff s a s' o h hok).mp hiso)) hiff
    (clean_start n)

/-- Two clients: the first one leaves, the second one comes between the two `Close` and is cut
off. -/
theorem not_isolated_between :
    ¬ EveryStep Sockets.step IsolatedAfter (start 2)
      [.accept, .go 2, .go 2, .go 2, .accept] := by
  intro h
  have hiso := (((((h _ _ rfl).2 _ _ rfl).2 _ _ rfl).2 _ _ rfl).2 _ _ rfl).1
  have hu : (⟨2, .shutdown true⟩ : User) ∈
      (⟨⟨[some 0, some 1, none]⟩, [⟨0, .serve⟩, ⟨1, .serve⟩, ⟨2, .shutdown true⟩]⟩ :
        Sockets).users := by decide
  exact not_isolated_opened hu (Or.inl rfl) rfl hiso

end Sockets

end FauxmoLinux
