import FleetRouting.Proofs.Run
import FleetRouting.Webhook
/-!
# FleetRouting.Proofs.WebhookIsolation

**Webhooks and the store share a breaker and nothing else.** What an address is told is what the network replies to the
very post that was made to it (`Webhooks.DeliversAll.told`, `Webhooks.DeliversAll.posted`), and a call to one service is
not seen by the circuits of the others (`Breaker.served_other`, `Service.guarded_other`). So what an address is told in
a run depends on the replies to its own posts and on the times alone: it is what a breaker tells that serves nobody
else (`Outbound.results_eq_replay`). The writes of a run are those of the service without webhooks
(`Outbound.writes_eq_writeAll`).
-/

namespace FleetRouting

/-! ### Posts and replies -/

/-- What becomes of a post that gets this reply. -/
def Delivery.ofReply (url : Url) : Reply → Delivery
  | .answered status => if Webhooks.isSuccess status then .delivered else .failed (.rejected status)
  | .unanswered => .failed (.unanswered url)

namespace Webhooks

/-- Where a post to an address goes, if there is a way to it. -/
def target? (address : String) : Option Url :=
  ((Url.read? address).map Url.withoutCredentials).filter fun url => url.isWeb && (Target.path? url.toText).isSome

/-- The posts of an event to some addresses. -/
def postsTo (e : FleetEvent) (addresses : List String) : List Post :=
  addresses.filterMap fun address => (target? address).map fun url => ⟨url, e⟩

/-- What comes of an attempt at an address: a failure if there is no way to it, and otherwise what the reply to its post
says. -/
def settle (address : String) (reply : Option Reply) : Delivery :=
  match Url.read? address with
  | none => .failed .unreadable
  | some url =>
    match reply with
    | some reply => .ofReply url.withoutCredentials reply
    | none => .failed (.unsupported url.withoutCredentials)

theorem settle_ne_skipped (address : String) (reply : Option Reply) : settle address reply ≠ .skipped := by
  unfold settle
  cases Url.read? address with
  | none => exact nofun
  | some url =>
      cases reply with
      | none => exact nofun
      | some reply =>
          cases reply with
          | answered status =>
              simp only [Delivery.ofReply]
              split <;> exact nofun
          | unanswered => exact nofun

/-- A post is made, and what the network replies to it is told. -/
theorem send_eq (w : Webhooks) (url : Url) (e : FleetEvent) :
    w.send url e = (.ofReply url (w.network w.posts.length ⟨url, e⟩), { w with posts := ⟨url, e⟩ :: w.posts }) := by
  simp only [send]
  generalize w.network w.posts.length ⟨url, e⟩ = reply
  cases reply with
  | answered status =>
      simp only [Delivery.ofReply]
      split <;> rfl
  | unanswered => rfl

/-- An attempt makes one post if there is a way, and tells the reply to it. -/
theorem attempt_eq (w : Webhooks) (address : String) (e : FleetEvent) :
    w.attempt address e =
      (settle address ((target? address).map fun url => w.network w.posts.length ⟨url, e⟩),
        { w with posts := postsTo e [address] ++ w.posts }) := by
  unfold attempt settle
  cases hread : Url.read? address with
  | none => simp [postsTo, target?, hread]
  | some url =>
      simp only
      split
      · next hway =>
          rw [send_eq]
          simp [postsTo, target?, hread, Option.filter_some, hway]
      · next hway => simp [postsTo, target?, hread, Option.filter_some, hway]

theorem postsTo_append (e : FleetEvent) (addresses addresses' : List String) :
    postsTo e (addresses ++ addresses') = postsTo e addresses ++ postsTo e addresses' :=
  List.filterMap_append

/-- There is at most one post to an address. -/
theorem reverse_postsTo_singleton (e : FleetEvent) (address : String) :
    (postsTo e [address]).reverse = postsTo e [address] := by
  rw [postsTo, List.filterMap_cons]
  split <;> rfl

end Webhooks

/-! ### Circuits apart -/

namespace Breaker

/-- Two breakers with the same settings and the same circuit for a service. -/
structure AgreesAt (b b' : Breaker) (service : String) : Prop where
  settings : b.settings service = b'.settings service
  circuit : b.circuits.get? service = b'.circuits.get? service

/-- The breaker behind a delivery to an address. -/
def served (b : Breaker) (address : String) (tick : Nat) : Delivery → Breaker
  | .delivered => (b.allow address tick).2.success address
  | .failed _ => (b.allow address tick).2.fail address tick
  | .skipped => (b.allow address tick).2

variable {b b' : Breaker} {s s' : String}

namespace AgreesAt

theorem refl (b : Breaker) (s : String) : b.AgreesAt b s := ⟨rfl, rfl⟩

theorem symm (h : b.AgreesAt b' s) : b'.AgreesAt b s := ⟨h.settings.symm, h.circuit.symm⟩

theorem trans {b'' : Breaker} (h : b.AgreesAt b' s) (h' : b'.AgreesAt b'' s) : b.AgreesAt b'' s :=
  ⟨h.settings.trans h'.settings, h.circuit.trans h'.circuit⟩

/-- The circuits of the service may be exchanged for one. -/
theorem insert (h : b.AgreesAt b' s) (c : Circuit) :
    AgreesAt { b with circuits := b.circuits.insert s c } { b' with circuits := b'.circuits.insert s c } s where
  settings := h.settings
  circuit := by rw [SortedMap.get?_insert_self, SortedMap.get?_insert_self]

theorem allow (h : b.AgreesAt b' s) (tick : Nat) :
    (b.allow s tick).1 = (b'.allow s tick).1 ∧ (b.allow s tick).2.AgreesAt (b'.allow s tick).2 s := by
  unfold Breaker.allow
  rw [h.circuit, h.settings]
  cases b'.circuits.get? s with
  | none => exact ⟨rfl, h⟩
  | some c => exact ⟨rfl, h.insert _⟩

theorem success (h : b.AgreesAt b' s) : (b.success s).AgreesAt (b'.success s) s := by
  unfold Breaker.success Breaker.circuit
  rw [h.circuit]
  exact h.insert _

theorem fail (h : b.AgreesAt b' s) (tick : Nat) : (b.fail s tick).AgreesAt (b'.fail s tick) s := by
  unfold Breaker.fail Breaker.circuit
  rw [h.circuit]
  exact h.insert _

theorem served (h : b.AgreesAt b' s) (tick : Nat) (d : Delivery) :
    (b.served s tick d).AgreesAt (b'.served s tick d) s := by
  have hallow := (h.allow tick).2
  cases d with
  | delivered => exact hallow.success
  | failed => exact hallow.fail tick
  | skipped => exact hallow

end AgreesAt

theorem insert_other (h : s ≠ s') (c : Circuit) : AgreesAt { b with circuits := b.circuits.insert s' c } b s where
  settings := rfl
  circuit := SortedMap.get?_insert_of_ne _ _ h

theorem allow_other (h : s ≠ s') (tick : Nat) : (b.allow s' tick).2.AgreesAt b s := by
  unfold allow
  cases b.circuits.get? s' with
  | none => exact .refl b s
  | some c => exact insert_other h _

theorem success_other (h : s ≠ s') : (b.success s').AgreesAt b s := insert_other h _

theorem fail_other (h : s ≠ s') (tick : Nat) : (b.fail s' tick).AgreesAt b s := insert_other h _

/-- A delivery to one address leaves the circuits of the others alone. -/
theorem served_other (h : s ≠ s') (tick : Nat) (d : Delivery) : (b.served s' tick d).AgreesAt b s := by
  have hallow := allow_other (b := b) h tick
  cases d with
  | delivered => exact (success_other h).trans hallow
  | failed => exact (fail_other h tick).trans hallow
  | skipped => exact hallow

/-- What a breaker tells that serves one address alone, at some times and with these replies to its posts, in order. -/
def replay (b : Breaker) (address : String) : List Nat → List Reply → List Delivery
  | [], _ => []
  | tick :: ticks, replies =>
    if (b.allow address tick).1 then
      match Webhooks.target? address with
      | none =>
        let d := Webhooks.settle address none
        d :: (b.served address tick d).replay address ticks replies
      | some _ =>
        match replies with
        | [] => []
        | reply :: replies =>
          let d := Webhooks.settle address (some reply)
          d :: (b.served address tick d).replay address ticks replies
    else .skipped :: (b.served address tick .skipped).replay address ticks replies

section

variable {address : String} {tick : Nat} (ticks : List Nat) (replies : List Reply)

theorem replay_of_refused (h : (b.allow address tick).1 = false) :
    b.replay address (tick :: ticks) replies =
      .skipped :: (b.served address tick .skipped).replay address ticks replies := by
  simp [replay, h]

/-- A call that is let through uses up one reply if it makes a post. -/
theorem replay_of_granted (h : (b.allow address tick).1 = true) {reply : Option Reply}
    (hreply : reply.isSome = (Webhooks.target? address).isSome) :
    b.replay address (tick :: ticks) (reply.toList ++ replies) =
      Webhooks.settle address reply ::
        (b.served address tick (Webhooks.settle address reply)).replay address ticks replies := by
  conv_lhs => unfold replay
  rw [h, if_pos rfl]
  cases htarget : Webhooks.target? address with
  | none =>
      rw [htarget] at hreply
      obtain rfl := Option.isNone_iff_eq_none.1 (Option.isSome_eq_false_iff.1 hreply)
      rfl
  | some url =>
      rw [htarget] at hreply
      obtain ⟨reply, rfl⟩ := Option.isSome_iff_exists.1 hreply
      rfl

end

end Breaker

/-! ### One event at all addresses -/

namespace Webhooks

variable {w : Webhooks} {s : Service} {tick : Nat} {e : FleetEvent}

/-- What a delivery does: it is skipped just when the circuit refuses, and otherwise the reply to the post is told. Of
the service it changes the breaker, and counters. -/
structure Delivers (w : Webhooks) (s : Service) (tick : Nat) (e : FleetEvent) (address : String)
    (out : Delivery × Webhooks × Service) : Prop where
  refused : (s.breaker.allow address tick).1 = false → out.1 = .skipped
  told : (s.breaker.allow address tick).1 = true →
    out.1 = settle address ((target? address).map fun url => w.network w.posts.length ⟨url, e⟩)
  webhooks : out.2.1 = { w with posts := postsTo e ([address].filter fun a => (s.breaker.allow a tick).1) ++ w.posts }
  breaker : out.2.2.breaker = s.breaker.served address tick out.1
  store : out.2.2.store = s.store

theorem delivers_deliver (w : Webhooks) (s : Service) (tick : Nat) (e : FleetEvent) (address : String) :
    w.Delivers s tick e address (w.deliver s tick e address) := by
  have hmade := settle_ne_skipped address ((target? address).map fun url => w.network w.posts.length ⟨url, e⟩)
  unfold deliver
  rw [attempt_eq]
  cases hallow : s.breaker.allow address tick with
  | mk granted breaker =>
      cases granted with
      | false =>
          refine ⟨fun _ => rfl, ?_, ?_, ?_, rfl⟩
          · simp [hallow]
          · simp [hallow, postsTo]
          · simp [Breaker.served, hallow, Service.count]
      | true =>
          generalize hd : settle address _ = d at hmade ⊢
          cases d with
          | delivered =>
              exact ⟨by simp [hallow], fun _ => hd.symm, by simp [hallow], by simp [Breaker.served, hallow], rfl⟩
          | failed =>
              exact ⟨by simp [hallow], fun _ => hd.symm, by simp [hallow], by simp [Breaker.served, hallow], rfl⟩
          | skipped => exact absurd rfl hmade

/-- The place of the post to an address among all posts when an event is delivered to some addresses: behind the posts
that were made before, and those to the addresses in front of it. -/
def place (w : Webhooks) (s : Service) (tick : Nat) (e : FleetEvent) (addresses : List String) (address : String) :
    Nat :=
  w.posts.length +
    (postsTo e ((addresses.takeWhile (· ≠ address)).filter fun a => (s.breaker.allow a tick).1)).length

/-- What the network replies to the post to an address when an event is delivered to some addresses, if one is made. -/
def reply? (w : Webhooks) (s : Service) (tick : Nat) (e : FleetEvent) (addresses : List String) (address : String) :
    Option Reply :=
  if (s.breaker.allow address tick).1 then
    (target? address).map fun url => w.network (w.place s tick e addresses address) ⟨url, e⟩
  else none

theorem reply?_of_refused {address : String} (h : (s.breaker.allow address tick).1 = false) (addresses : List String) :
    w.reply? s tick e addresses address = none := by
  rw [reply?, h, if_neg Bool.false_ne_true]

theorem reply?_of_granted {address : String} (h : (s.breaker.allow address tick).1 = true) (addresses : List String) :
    w.reply? s tick e addresses address =
      (target? address).map fun url => w.network (w.place s tick e addresses address) ⟨url, e⟩ := by
  rw [reply?, h, if_pos rfl]

theorem place_cons_self (addresses : List String) (address : String) :
    w.place s tick e (address :: addresses) address = w.posts.length := by
  simp [place, postsTo]

/-- An address behind another one has its place behind the post to that. -/
theorem place_cons_of_ne {address a : String} (hne : address ≠ a) (addresses : List String) {s' : Service}
    (hsame : ∀ a ∈ addresses, (s'.breaker.allow a tick).1 = (s.breaker.allow a tick).1) :
    place { w with posts := postsTo e ([address].filter fun a => (s.breaker.allow a tick).1) ++ w.posts } s' tick e
        addresses a =
      w.place s tick e (address :: addresses) a := by
  have hgranted : (addresses.takeWhile (· ≠ a)).filter (fun a => (s'.breaker.allow a tick).1) =
      (addresses.takeWhile (· ≠ a)).filter fun a => (s.breaker.allow a tick).1 :=
    List.filter_congr fun a' ha' => hsame a' (List.takeWhile_subset _ ha')
  have hfront : (address :: addresses).takeWhile (· ≠ a) = [address] ++ addresses.takeWhile (· ≠ a) := by
    rw [List.takeWhile_cons_of_pos (by simpa using hne), List.singleton_append]
  rw [place, place, hgranted, hfront, List.filter_append, postsTo_append, List.length_append, List.length_append]
  omega

/-- What the deliveries of an event to different addresses do. -/
structure DeliversAll (w : Webhooks) (s : Service) (tick : Nat) (e : FleetEvent) (addresses : List String)
    (out : List Delivery × Webhooks × Service) : Prop where
  length : out.1.length = addresses.length
  refused : ∀ address d, (address, d) ∈ addresses.zip out.1 →
    (s.breaker.allow address tick).1 = false → d = .skipped
  /-- An address whose circuit lets the call through is told the reply to its own post. -/
  told : ∀ address d, (address, d) ∈ addresses.zip out.1 →
    (s.breaker.allow address tick).1 = true → d = settle address (w.reply? s tick e addresses address)
  webhooks : out.2.1 =
    { w with posts := (postsTo e (addresses.filter fun a => (s.breaker.allow a tick).1)).reverse ++ w.posts }
  own : ∀ address d, (address, d) ∈ addresses.zip out.1 →
    out.2.2.breaker.AgreesAt (s.breaker.served address tick d) address
  others : ∀ service, service ∉ addresses → out.2.2.breaker.AgreesAt s.breaker service
  store : out.2.2.store = s.store

theorem deliversAll_deliverAll {addresses : List String} (hdistinct : addresses.Nodup) (w : Webhooks) (s : Service)
    (tick : Nat) (e : FleetEvent) : w.DeliversAll s tick e addresses (w.deliverAll s tick e addresses) := by
  induction addresses generalizing w s with
  | nil =>
      have hnone (address : String) (d : Delivery) : (address, d) ∉ ([] : List String).zip ([] : List Delivery) :=
        List.not_mem_nil
      rw [deliverAll]
      exact ⟨rfl, fun a d hd => absurd hd (hnone a d), fun a d hd => absurd hd (hnone a d), rfl,
        fun a d hd => absurd hd (hnone a d), fun service _ => .refl _ service, rfl⟩
  | cons address addresses ih =>
      obtain ⟨hnew, hdistinct⟩ := List.nodup_cons.1 hdistinct
      have hfirst := w.delivers_deliver s tick e address
      have hrest := ih hdistinct (w.deliver s tick e address).2.1 (w.deliver s tick e address).2.2
      rw [deliverAll]
      generalize w.deliver s tick e address = first at hfirst hrest ⊢
      obtain ⟨d, w', s'⟩ := first
      obtain rfl : w' = _ := hfirst.webhooks
      simp only at hfirst hrest ⊢
      generalize deliverAll _ s' tick e addresses = rest at hrest ⊢
      obtain ⟨ds, w'', s''⟩ := rest
      -- the addresses that follow see the same circuits as before
      have hsame : ∀ a ∈ addresses, s'.breaker.AgreesAt s.breaker a := by
        intro a ha
        have hne : a ≠ address := fun heq => hnew (heq.symm ▸ ha)
        rw [hfirst.breaker]
        exact Breaker.served_other hne tick d
      have hgranted : ∀ a ∈ addresses, (s'.breaker.allow a tick).1 = (s.breaker.allow a tick).1 :=
        fun a ha => ((hsame a ha).allow tick).1
      have hmem : ∀ a d', (a, d') ∈ addresses.zip ds → a ∈ addresses := fun a d' h => (List.of_mem_zip h).1
      refine ⟨congrArg (· + 1) hrest.length, ?_, ?_, ?_, ?_, ?_, hrest.store.trans hfirst.store⟩
      · intro a d' hd
        rcases List.mem_cons.1 hd with hd | hd
        · cases hd
          exact hfirst.refused
        · rw [← hgranted a (hmem a d' hd)]
          exact hrest.refused a d' hd
      · intro a d' hd
        rcases List.mem_cons.1 hd with hd | hd
        · cases hd
          intro hlet
          rw [reply?_of_granted hlet, place_cons_self]
          exact hfirst.told hlet
        · have ha := hmem a d' hd
          have hne : address ≠ a := fun heq => hnew (heq ▸ ha)
          rw [reply?, ← place_cons_of_ne hne addresses hgranted, ← hgranted a ha]
          exact hrest.told a d' hd
      · have hone : (postsTo e ([address].filter fun a => (s.breaker.allow a tick).1)).reverse =
            postsTo e ([address].filter fun a => (s.breaker.allow a tick).1) := by
          rw [List.filter_singleton]
          cases (s.breaker.allow address tick).1 with
          | false => rfl
          | true => exact reverse_postsTo_singleton e address
        rw [hrest.webhooks, List.filter_congr hgranted, ← List.append_assoc, ← hone, ← List.reverse_append,
          ← postsTo_append, ← List.filter_append, List.singleton_append]
      · intro a d' hd
        rcases List.mem_cons.1 hd with hd | hd
        · cases hd
          rw [← hfirst.breaker]
          exact hrest.others address hnew
        · exact (hrest.own a d' hd).trans ((hsame a (hmem a d' hd)).served tick d')
      · intro service hservice
        obtain ⟨hne, hothers⟩ := not_or.1 fun h => hservice (List.mem_cons.2 h)
        refine (hrest.others service hothers).trans ?_
        rw [hfirst.breaker]
        exact Breaker.served_other hne tick d

/-- An address is skipped just when its circuit refuses. -/
theorem DeliversAll.skipped_iff {addresses : List String} {out : List Delivery × Webhooks × Service}
    (h : w.DeliversAll s tick e addresses out) {address : String} {d : Delivery}
    (hd : (address, d) ∈ addresses.zip out.1) : d = .skipped ↔ (s.breaker.allow address tick).1 = false := by
  refine ⟨fun hskipped => Bool.eq_false_iff.2 fun hgranted => ?_, h.refused address d hd⟩
  exact settle_ne_skipped address _ ((h.told address d hd hgranted).symm.trans hskipped)

/-- **The reply that an address is told is the reply to the very post that was made to it.** -/
theorem DeliversAll.posted {addresses : List String} {out : List Delivery × Webhooks × Service}
    (h : w.DeliversAll s tick e addresses out) {address : String} (hmem : address ∈ addresses)
    (hgranted : (s.breaker.allow address tick).1 = true) {url : Url} (htarget : target? address = some url) :
    out.2.1.posts.reverse[w.place s tick e addresses address]? = some ⟨url, e⟩ ∧
      w.reply? s tick e addresses address = some (w.network (w.place s tick e addresses address) ⟨url, e⟩) := by
  obtain ⟨front, rest, rfl, hfront⟩ := List.eq_append_cons_of_mem hmem
  have htake : (front ++ address :: rest).takeWhile (· ≠ address) = front := by
    rw [List.takeWhile_append_of_pos fun a ha => by simpa using fun heq : a = address => hfront (heq ▸ ha),
      List.takeWhile_cons_of_neg (by simp), List.append_nil]
  refine ⟨?_, by rw [reply?_of_granted hgranted, htarget, Option.map_some]⟩
  have hposts : out.2.1.posts.reverse = w.posts.reverse ++
      (postsTo e (front.filter fun a => (s.breaker.allow a tick).1) ++
        ⟨url, e⟩ :: postsTo e (rest.filter fun a => (s.breaker.allow a tick).1)) := by
    rw [h.webhooks, List.reverse_append, List.reverse_reverse, List.filter_append, postsTo_append]
    simp [postsTo, hgranted, htarget]
  rw [hposts, place, htake, List.getElem?_append_right (by simp), List.length_reverse, Nat.add_sub_cancel_left,
    List.getElem?_append_right (Nat.le_refl _), Nat.sub_self, List.getElem?_cons_zero]

end Webhooks

/-! ### Writes to the store -/

namespace Service

/-- Two services with the same store and the same circuit for it. -/
structure StoresAlike (s t : Service) : Prop where
  store : s.store = t.store
  breaker : s.breaker.AgreesAt t.breaker storeService

theorem StoresAlike.refl (s : Service) : s.StoresAlike s := ⟨rfl, .refl _ _⟩

theorem StoresAlike.trans {s t u : Service} (h : s.StoresAlike t) (h' : t.StoresAlike u) : s.StoresAlike u :=
  ⟨h.store.trans h'.store, h.breaker.trans h'.breaker⟩

/-- A write sees the store and its circuit alone. -/
theorem StoresAlike.guarded {s t : Service} (h : s.StoresAlike t) (tick : Nat) (write : StoreM Unit) :
    (s.guarded tick write).1 = (t.guarded tick write).1 ∧
      (s.guarded tick write).2.StoresAlike (t.guarded tick write).2 := by
  obtain ⟨hgranted, hbreaker⟩ := h.breaker.allow tick
  unfold Service.guarded call
  rw [← h.store]
  cases hallow : s.breaker.allow storeService tick with
  | mk granted breaker =>
      cases hallow' : t.breaker.allow storeService tick with
      | mk granted' breaker' =>
          rw [hallow, hallow'] at hgranted hbreaker
          obtain rfl : granted = granted' := hgranted
          cases granted with
          | false =>
              simp only [Bool.false_eq_true, if_false]
              exact ⟨trivial, rfl, hbreaker⟩
          | true =>
              simp only [if_true]
              cases hrun : write.run s.store with
              | mk result store =>
                  cases result with
                  | ok => exact ⟨rfl, rfl, hbreaker.success⟩
                  | error => exact ⟨rfl, rfl, hbreaker.fail tick⟩

/-- A write is not seen by the circuits of the addresses. -/
theorem guarded_other {address : String} (h : address ≠ storeService) (s : Service) (tick : Nat) (write : StoreM Unit) :
    (s.guarded tick write).2.breaker.AgreesAt s.breaker address := by
  have hallow := Breaker.allow_other (b := s.breaker) h tick
  have hattempt := s.attempt_guarded tick write
  generalize s.guarded tick write = out at hattempt ⊢
  cases hattempt with
  | refused => exact hallow
  | failed => exact (Breaker.fail_other h tick).trans hallow
  | succeeded => exact (Breaker.success_other h).trans hallow

/-- Writes one after another, each at its time: whether it is attempted, and what comes of it. -/
def writeAll (s : Service) : List (Nat × StoreM Unit) → List (Bool × Except FleetError Unit)
  | [] => []
  | (tick, write) :: writes =>
    ((s.breaker.allow storeService tick).1, (s.guarded tick write).1) :: (s.guarded tick write).2.writeAll writes

end Service

/-! ### Runs -/

/-- What a service has to do with the world outside, and the passing of time in between. -/
inductive Errand where
  | dispatch (e : FleetEvent)
  | write (action : StoreM Unit)
  | advance (nanos : Nat)

/-- A service with its webhooks, and the monotonic clock. -/
structure Outbound where
  webhooks : Webhooks
  service : Service
  tick : Nat

/-- The times of the dispatches in a list of errands that begins at `tick`. -/
def Errand.dispatchTicks (tick : Nat) : List Errand → List Nat
  | [] => []
  | .dispatch _ :: errands => tick :: dispatchTicks tick errands
  | .write _ :: errands => dispatchTicks tick errands
  | .advance nanos :: errands => dispatchTicks (tick + nanos) errands

/-- The writes in a list of errands that begins at `tick`, with their times. -/
def Errand.timedWrites (tick : Nat) : List Errand → List (Nat × StoreM Unit)
  | [] => []
  | .dispatch _ :: errands => timedWrites tick errands
  | .write action :: errands => (tick, action) :: timedWrites tick errands
  | .advance nanos :: errands => timedWrites (tick + nanos) errands

namespace Outbound

/-- What a dispatch is told, and what it leaves behind. -/
def dispatch (x : Outbound) (e : FleetEvent) : List Delivery × Webhooks × Service :=
  x.webhooks.dispatch x.service x.tick e

/-- What is left behind an errand. -/
def step (x : Outbound) : Errand → Outbound
  | .dispatch e => ⟨(x.dispatch e).2.1, (x.dispatch e).2.2, x.tick⟩
  | .write action => ⟨x.webhooks, (x.service.guarded x.tick action).2, x.tick⟩
  | .advance nanos => ⟨x.webhooks, x.service, x.tick + nanos⟩

/-- What is left behind a list of errands. -/
def run (x : Outbound) (errands : List Errand) : Outbound := errands.foldl step x

/-- What the dispatches of a run tell of one address. -/
def results (address : String) (x : Outbound) : List Errand → List Delivery
  | [] => []
  | .dispatch e :: errands =>
    ((x.webhooks.urls.zip (x.dispatch e).1).lookup address).toList ++ (x.step (.dispatch e)).results address errands
  | errand :: errands => (x.step errand).results address errands

/-- The place of the post to an address among all posts when an event is dispatched. -/
def place (x : Outbound) (e : FleetEvent) (address : String) : Nat :=
  x.webhooks.place x.service x.tick e x.webhooks.urls address

/-- What the network replies to the post to an address when an event is dispatched, if one is made. -/
def reply? (x : Outbound) (e : FleetEvent) (address : String) : Option Reply :=
  x.webhooks.reply? x.service x.tick e x.webhooks.urls address

/-- What the network replies in a run to the posts to one address. -/
def replies (address : String) (x : Outbound) : List Errand → List Reply
  | [] => []
  | .dispatch e :: errands => (x.reply? e address).toList ++ (x.step (.dispatch e)).replies address errands
  | errand :: errands => (x.step errand).replies address errands

/-- The writes of a run: whether each is attempted, and what comes of it. -/
def writes (x : Outbound) : List Errand → List (Bool × Except FleetError Unit)
  | [] => []
  | .write action :: errands =>
    ((x.service.breaker.allow Service.storeService x.tick).1, (x.service.guarded x.tick action).1) ::
      (x.step (.write action)).writes errands
  | errand :: errands => (x.step errand).writes errands

/-- Addresses that are different from one another and from the name of the store. -/
structure Separate (x : Outbound) : Prop where
  distinct : x.webhooks.urls.Nodup
  store : Service.storeService ∉ x.webhooks.urls

variable {x : Outbound}

theorem Separate.dispatch (h : x.Separate) (e : FleetEvent) :
    x.webhooks.DeliversAll x.service x.tick e x.webhooks.urls (x.dispatch e) :=
  Webhooks.deliversAll_deliverAll h.distinct x.webhooks x.service x.tick e

/-- The addresses and the network stay. -/
theorem Separate.kept_step (h : x.Separate) (errand : Errand) :
    (x.step errand).webhooks.urls = x.webhooks.urls ∧ (x.step errand).webhooks.network = x.webhooks.network := by
  cases errand with
  | dispatch e =>
      have hwebhooks : (x.step (.dispatch e)).webhooks = _ := (h.dispatch e).webhooks
      rw [hwebhooks]
      exact ⟨rfl, rfl⟩
  | write => exact ⟨rfl, rfl⟩
  | advance => exact ⟨rfl, rfl⟩

theorem Separate.step (h : x.Separate) (errand : Errand) : (x.step errand).Separate where
  distinct := (h.kept_step errand).1.symm ▸ h.distinct
  store := (h.kept_step errand).1.symm ▸ h.store

theorem Separate.run (h : x.Separate) (errands : List Errand) :
    (x.run errands).Separate ∧ (x.run errands).webhooks.urls = x.webhooks.urls ∧
      (x.run errands).webhooks.network = x.webhooks.network := by
  induction errands generalizing x with
  | nil => exact ⟨h, rfl, rfl⟩
  | cons errand errands ih =>
      obtain ⟨hseparate, hurls, hnetwork⟩ := ih (h.step errand)
      obtain ⟨hurls', hnetwork'⟩ := h.kept_step errand
      exact ⟨hseparate, hurls.trans hurls', hnetwork.trans hnetwork'⟩

/-- A dispatch tells one thing of each address. -/
theorem exists_lookup_zip {addresses : List String} {ds : List Delivery} (hlength : ds.length = addresses.length)
    {address : String} (hmem : address ∈ addresses) :
    ∃ d, (addresses.zip ds).lookup address = some d ∧ (address, d) ∈ addresses.zip ds := by
  induction addresses generalizing ds with
  | nil => cases hmem
  | cons a addresses ih =>
      cases ds with
      | nil => cases hlength
      | cons d ds =>
          rw [List.zip_cons_cons, List.lookup_cons]
          by_cases heq : address = a
          · subst heq
            exact ⟨d, by rw [beq_self_eq_true], List.mem_cons_self ..⟩
          · obtain ⟨d', hlookup, hzip⟩ := ih (Nat.succ.inj hlength) ((List.mem_cons.1 hmem).resolve_left heq)
            exact ⟨d', by rw [beq_false_of_ne heq]; exact hlookup, List.mem_cons_of_mem _ hzip⟩

/-- **An address is told what a breaker tells that serves it alone,** at the times of the dispatches and with the
replies to its own posts. -/
theorem results_eq_replay (hx : x.Separate) {address : String} (hmem : address ∈ x.webhooks.urls) {b : Breaker}
    (hb : x.service.breaker.AgreesAt b address) (errands : List Errand) {own : List Reply}
    (hown : x.replies address errands <+: own) :
    x.results address errands = b.replay address (Errand.dispatchTicks x.tick errands) own := by
  induction errands generalizing x b own with
  | nil => rfl
  | cons errand errands ih =>
      have hmem' : address ∈ (x.step errand).webhooks.urls := (hx.kept_step errand).1.symm ▸ hmem
      cases errand with
      | dispatch e =>
          have hdelivers := hx.dispatch e
          obtain ⟨d, hlookup, hzip⟩ := exists_lookup_zip hdelivers.length hmem
          have hsame := (hb.allow x.tick).1
          have hafter : (x.step (.dispatch e)).service.breaker.AgreesAt (b.served address x.tick d) address :=
            (hdelivers.own address d hzip).trans (hb.served x.tick d)
          have hresults : x.results address (.dispatch e :: errands) =
              d :: (x.step (.dispatch e)).results address errands := by
            rw [results, hlookup]
            rfl
          rw [replies] at hown
          rw [hresults, Errand.dispatchTicks]
          cases hgranted : (b.allow address x.tick).1 with
          | false =>
              have hrefused := hsame.trans hgranted
              obtain rfl := hdelivers.refused address d hzip hrefused
              rw [reply?, Webhooks.reply?_of_refused hrefused] at hown
              rw [Breaker.replay_of_refused _ _ hgranted]
              exact congrArg _ (ih (hx.step _) hmem' hafter hown)
          | true =>
              have hlet := hsame.trans hgranted
              obtain rfl := hdelivers.told address d hzip hlet
              obtain ⟨rest, rfl⟩ := hown
              have hreply : (x.reply? e address).isSome = (Webhooks.target? address).isSome := by
                rw [reply?, Webhooks.reply?_of_granted hlet, Option.isSome_map]
              rw [List.append_assoc, Breaker.replay_of_granted _ _ hgranted hreply]
              exact congrArg _ (ih (hx.step _) hmem' hafter (List.prefix_append ..))
      | write action =>
          have hne : address ≠ Service.storeService := fun heq => hx.store (heq ▸ hmem)
          exact ih (hx.step _) hmem' ((Service.guarded_other hne x.service x.tick action).trans hb) hown
      | advance nanos => exact ih (hx.step _) hmem' hb hown

/-- **The writes of a run are those of the service without webhooks.** -/
theorem writes_eq_writeAll (hx : x.Separate) {s : Service} (hs : x.service.StoresAlike s) (errands : List Errand) :
    x.writes errands = s.writeAll (Errand.timedWrites x.tick errands) := by
  induction errands generalizing x s with
  | nil => rfl
  | cons errand errands ih =>
      cases errand with
      | dispatch e =>
          have hdelivers := hx.dispatch e
          have hsame : (x.step (.dispatch e)).service.StoresAlike x.service :=
            ⟨hdelivers.store, hdelivers.others _ hx.store⟩
          exact ih (hx.step _) (hsame.trans hs)
      | write action =>
          obtain ⟨hresult, hafter⟩ := hs.guarded x.tick action
          rw [writes, (hs.breaker.allow x.tick).1, hresult, ih (hx.step (.write action)) hafter]
          rfl
      | advance nanos => exact ih (hx.step _) hs

/-- **Webhooks and the store are isolated from one another.** Let no address be configured twice, and none be called as
the store is. A dispatch, at any time of any run, tells one thing of each address in order, makes at most one post to
each, and skips an address just when its circuit refuses, and then makes none; otherwise it tells what the network
replies to the very post that goes to this address. In two runs, whatever else is dispatched and written and whatever
other addresses there are, an address is told the same as long as it is served at the same times and gets the same
replies to its own posts as far as both runs make them; and the same writes at the same times are attempted and end
alike, whatever becomes of any post. -/
theorem isolated {x x' : Outbound} (hx : x.Separate) (hx' : x'.Separate) (errands errands' : List Errand) :
    (∀ e,
      let y := x.run errands
      let granted := fun address => (y.service.breaker.allow address y.tick).1
      let out := y.dispatch e
      out.1.length = x.webhooks.urls.length ∧
        out.2.1.posts = (Webhooks.postsTo e (x.webhooks.urls.filter granted)).reverse ++ y.webhooks.posts ∧
        ∀ address d, (address, d) ∈ x.webhooks.urls.zip out.1 →
          (d = .skipped ↔ granted address = false) ∧
          (granted address = true →
            d = Webhooks.settle address (y.reply? e address) ∧
            ∀ url, Webhooks.target? address = some url →
              out.2.1.posts.reverse[y.place e address]? = some ⟨url, e⟩ ∧
              y.reply? e address = some (x.webhooks.network (y.place e address) ⟨url, e⟩))) ∧
    (∀ address ∈ x.webhooks.urls, address ∈ x'.webhooks.urls →
      x.service.breaker.AgreesAt x'.service.breaker address →
      Errand.dispatchTicks x.tick errands = Errand.dispatchTicks x'.tick errands' →
      (x.replies address errands <+: x'.replies address errands' ∨
        x'.replies address errands' <+: x.replies address errands) →
      x.results address errands = x'.results address errands') ∧
    (x.service.StoresAlike x'.service →
      Errand.timedWrites x.tick errands = Errand.timedWrites x'.tick errands' →
      x.writes errands = x'.writes errands') := by
  refine ⟨fun e => ?_, fun address hmem hmem' hagrees hticks hown => ?_, fun hstores hwrites => ?_⟩
  · obtain ⟨hy, hurls, hnetwork⟩ := hx.run errands
    have hdelivers := hy.dispatch e
    rw [← hurls, ← hnetwork]
    refine ⟨hdelivers.length, congrArg Webhooks.posts hdelivers.webhooks, fun address d hzip => ?_⟩
    refine ⟨hdelivers.skipped_iff hzip, fun hgranted => ⟨hdelivers.told address d hzip hgranted, ?_⟩⟩
    intro url htarget
    exact hdelivers.posted (List.of_mem_zip hzip).1 hgranted htarget
  · rcases hown with hown | hown
    · rw [results_eq_replay hx hmem (.refl _ _) errands hown,
        results_eq_replay hx' hmem' hagrees.symm errands' (List.prefix_refl _), hticks]
    · rw [results_eq_replay hx hmem hagrees errands (List.prefix_refl _),
        results_eq_replay hx' hmem' (.refl _ _) errands' hown, hticks]
  · rw [writes_eq_writeAll hx hstores errands, writes_eq_writeAll hx' (.refl _) errands', hwrites]

/-- One address of two does not answer, so that its circuit opens; the other one and the store do not notice it. -/
theorem isolated_from_silent :
    let e : FleetEvent := .policyUpdated .adaptive ⟨0, 0⟩
    let save : StoreM Unit := Store.savePolicy {}
    let silent : Network := fun _ post => if post.url.toText = "http://[::1]/" then .unanswered else .answered 204
    let service : Service := { breaker := .ofSettings ⟨1, 60⟩ }
    let x : Outbound := ⟨{ urls := ["http://[::1]", "http://[::2]"], network := silent }, service, 0⟩
    let x' : Outbound := ⟨{ urls := ["http://[::2]"], network := fun _ _ => .answered 204 }, service, 0⟩
    let errands : List Errand := [.dispatch e, .advance 5, .write save, .dispatch e]
    let errands' : List Errand := [.dispatch e, .advance 5, .dispatch e, .write save]
    (x.results "http://[::1]" errands).getLast? = some .skipped ∧
      ((x.run [.dispatch e]).dispatch e).2.1.posts.length = 3 ∧
      x.results "http://[::2]" errands = x'.results "http://[::2]" errands' ∧
      x.writes errands = x'.writes errands' := by
  intro e save silent service x x' errands errands'
  have hfirst : (x.results "http://[::1]" errands).getLast? = some .skipped := by decide +kernel
  have hx : x.Separate := ⟨by decide, by decide⟩
  have hx' : x'.Separate := ⟨by decide, by decide⟩
  have hreplies : x.replies "http://[::2]" errands = [.answered 204, .answered 204] := by decide +kernel
  have hreplies' : x'.replies "http://[::2]" errands' = [.answered 204, .answered 204] := by decide +kernel
  have hprefix : x.replies "http://[::2]" errands <+: x'.replies "http://[::2]" errands' :=
    (hreplies.trans hreplies'.symm) ▸ List.prefix_refl _
  obtain ⟨-, hresults, hwrites⟩ := isolated hx hx' errands errands'
  obtain ⟨-, hposts, -⟩ := (isolated hx hx' [.dispatch e] []).1 e
  refine ⟨hfirst, ?_, hresults _ (by decide) (by decide) (.refl _ _) rfl (.inl hprefix), hwrites (.refl _) rfl⟩
  rw [hposts]
  decide +kernel

end Outbound

end FleetRouting
