import ObjectIntake.Work

/-!
What work gives and what it leaves of the world, whatever has been written before. Each rule below follows
one way in which work is put together.
-/
namespace ObjectIntake.Work

variable {W α β : Type} {w v u : W}

/-- A result that was put together is a success where both parts are. -/
theorem bind_eq_ok {ε : Type} {x : Except ε α} {f : α → Except ε β} {r : β} :
    (x >>= f) = .ok r ↔ ∃ a, x = .ok a ∧ f a = .ok r := by
  cases x with
  | error e =>
    constructor
    · intro h
      cases h
    · rintro ⟨a, ha, -⟩
      cases ha
  | ok a =>
    constructor
    · intro h
      exact ⟨a, rfl, h⟩
    · rintro ⟨b, hb, h⟩
      cases hb
      exact h

theorem eq_ok_of_toOption {ε : Type} {x : Except ε α} {a : α} (h : x.toOption = some a) : x = .ok a := by
  cases x with
  | error e => cases h
  | ok b => exact congrArg Except.ok (Option.some.inj h)

section Runs

variable {x : Work W α} {f : α → Work W β} {h : Failure → Work W α} {scene : Scene W}

theorem runIn_bind_ok {a : α} (hx : (x.runIn scene).1 = .ok a) :
    (x >>= f).runIn scene = (f a).runIn (x.runIn scene).2 := by
  change (ExceptT.bindCont f (x.runIn scene).1) (x.runIn scene).2 = _
  rw [hx]
  rfl

theorem runIn_bind_error {e : Failure} (hx : (x.runIn scene).1 = .error e) :
    (x >>= f).runIn scene = (.error e, (x.runIn scene).2) := by
  change (ExceptT.bindCont f (x.runIn scene).1) (x.runIn scene).2 = _
  rw [hx]
  rfl

theorem runIn_bind_eq_ok {b : β} (h : ((x >>= f).runIn scene).1 = .ok b) :
    ∃ a, (x.runIn scene).1 = .ok a ∧ ((f a).runIn (x.runIn scene).2).1 = .ok b := by
  cases hx : (x.runIn scene).1 with
  | ok a =>
    rw [runIn_bind_ok hx] at h
    exact ⟨a, rfl, h⟩
  | error e =>
    rw [runIn_bind_error hx] at h
    cases h

theorem runIn_when_eq_ok {p : Prop} [Decidable p] {y : Work W β} {b : β}
    (h : ((if p then x >>= fun _ => y else y).runIn scene).1 = .ok b) :
    ∃ after, (after = scene ∨ after = (x.runIn scene).2) ∧ (y.runIn after).1 = .ok b := by
  split at h
  next =>
    obtain ⟨_, -, hy⟩ := runIn_bind_eq_ok h
    exact ⟨_, .inr rfl, hy⟩
  next => exact ⟨_, .inl rfl, h⟩

theorem runIn_catch_ok {a : α} (hx : (x.runIn scene).1 = .ok a) :
    (tryCatch x h).runIn scene = (.ok a, (x.runIn scene).2) := by
  have hpair : x scene = (.ok a, (x.runIn scene).2) := by rw [← hx]; rfl
  change ExceptT.tryCatch x h scene = _
  simp only [ExceptT.tryCatch, ExceptT.mk, Bind.bind, StateT.bind, hpair]
  rfl

theorem runIn_catch_error {e : Failure} (hx : (x.runIn scene).1 = .error e) :
    (tryCatch x h).runIn scene = (h e).runIn (x.runIn scene).2 := by
  have hpair : x scene = (.error e, (x.runIn scene).2) := by rw [← hx]; rfl
  change ExceptT.tryCatch x h scene = _
  simp only [ExceptT.tryCatch, ExceptT.mk, Bind.bind, StateT.bind, hpair]
  rfl

/-- What is closed after some work is closed in the scene that the work left. -/
theorem runIn_closing (close : Work W Unit) :
    (Work.closing x close).runIn scene =
      ((close.runIn (x.runIn scene).2).1 >>= fun _ => (x.runIn scene).1, (close.runIn (x.runIn scene).2).2) := by
  change Work.closing x close scene = _
  unfold Work.closing
  dsimp only
  cases close.runIn (x.runIn scene).2 with
  | mk result after =>
    cases result with
    | ok _ => rfl
    | error _ => rfl

end Runs

theorem bind_eq_error {ε : Type} {x : Except ε α} {f : α → Except ε β} {e : ε} :
    (x >>= f) = .error e ↔ x = .error e ∨ ∃ a, x = .ok a ∧ f a = .error e := by
  cases x with
  | error d => simp [bind, Except.bind]
  | ok a => simp [bind, Except.bind]

/-- Seen through a view of the scene, the work gives `result` and leads from `s` to `t`. -/
def Takes {S : Type} (view : Scene W → S) (work : Work W α) (s : S) (result : Except Failure α) (t : S) : Prop :=
  ∀ scene : Scene W, view scene = s → (work.runIn scene).1 = result ∧ view (work.runIn scene).2 = t

namespace Takes

variable {S : Type} {view : Scene W → S} {s t z : S}

theorem result_eq {work : Work W α} {r : Except Failure α} (h : work.Takes view s r t)
    {scene : Scene W} (hs : view scene = s) : (work.runIn scene).1 = r := (h scene hs).1

theorem view_eq {work : Work W α} {r : Except Failure α} (h : work.Takes view s r t)
    {scene : Scene W} (hs : view scene = s) : view (work.runIn scene).2 = t := (h scene hs).2

theorem pure (a : α) : Takes view (Pure.pure a : Work W α) s (.ok a) s := fun _ hs => ⟨rfl, hs⟩

theorem throw (e : Failure) : Takes view (MonadExcept.throw e : Work W α) s (.error e) s :=
  fun _ hs => ⟨rfl, hs⟩

theorem ofExcept (r : Except Failure α) : Takes view (Work.ofExcept r) s r s := fun _ hs => ⟨rfl, hs⟩

theorem bind {x : Work W α} {f : α → Work W β} {a : α} {r : Except Failure β}
    (hx : x.Takes view s (.ok a) t) (hf : (f a).Takes view t r z) : (x >>= f).Takes view s r z := by
  intro scene hs
  obtain ⟨hr, ht⟩ := hx scene hs
  rw [runIn_bind_ok hr]
  exact hf _ ht

theorem bind_error {x : Work W α} {f : α → Work W β} {e : Failure}
    (hx : x.Takes view s (.error e) t) : (x >>= f).Takes view s (.error e) t := by
  intro scene hs
  obtain ⟨hr, ht⟩ := hx scene hs
  rw [runIn_bind_error hr]
  exact ⟨rfl, ht⟩

/-- Work that leaves things as they are, followed by work whose result is a function of what it found. -/
theorem bind_steady {x : Work W α} {f : α → Work W β} {r : Except Failure α} {g : α → Except Failure β}
    (hx : x.Takes view s r s) (hf : ∀ a, r = .ok a → (f a).Takes view s (g a) s) :
    (x >>= f).Takes view s (r >>= g) s := by
  cases r with
  | ok a => exact hx.bind (hf a rfl)
  | error e => exact hx.bind_error

/-- A loop whose body leaves things as they are does so too. -/
theorem forIn {items : List β} {f : β → PUnit → Work W (ForInStep PUnit)}
    (hf : ∀ b, (f b PUnit.unit).Takes view s (.ok (.yield PUnit.unit)) s) :
    (ForIn.forIn items PUnit.unit f : Work W PUnit).Takes view s (.ok PUnit.unit) s := by
  induction items with
  | nil => exact Takes.pure _
  | cons b rest ih =>
    rw [List.forIn_cons]
    exact (hf b).bind ih

theorem catch_ok {x : Work W α} {h : Failure → Work W α} {a : α}
    (hx : x.Takes view s (.ok a) t) : (tryCatch x h).Takes view s (.ok a) t := by
  intro scene hs
  obtain ⟨hr, ht⟩ := hx scene hs
  rw [runIn_catch_ok hr]
  exact ⟨rfl, ht⟩

theorem catch_error {x : Work W α} {h : Failure → Work W α} {e : Failure} {r : Except Failure α}
    (hx : x.Takes view s (.error e) t) (hh : (h e).Takes view t r z) : (tryCatch x h).Takes view s r z := by
  intro scene hs
  obtain ⟨hr, ht⟩ := hx scene hs
  rw [runIn_catch_error hr]
  exact hh _ ht

end Takes

/-- Seen through a view of the scene, the work comes to one of some ends from `s`. -/
def Ends {S : Type} (view : Scene W → S) (work : Work W α) (s : S) (ends : Except Failure α × S → Prop) : Prop :=
  ∃ exit, ends exit ∧ work.Takes view s exit.1 exit.2

theorem Takes.bind_ends {S : Type} {view : Scene W → S} {s t : S} {x : Work W α} {f : α → Work W β} {a : α}
    {ends : Except Failure β × S → Prop} (hx : x.Takes view s (.ok a) t) (hf : (f a).Ends view t ends) :
    (x >>= f).Ends view s ends := by
  obtain ⟨exit, hexit, htakes⟩ := hf
  exact ⟨exit, hexit, hx.bind htakes⟩

/-- From the world `w` the work gives `result` and leaves the world `after`. The journal may grow. -/
def Gives (work : Work W α) (w : W) (result : Except Failure α) (after : W) : Prop :=
  ∀ scene : Scene W, scene.world = w →
    (work.runIn scene).1 = result ∧ (work.runIn scene).2.world = after

namespace Gives

theorem result_eq {work : Work W α} {r : Except Failure α} (h : work.Gives w r v)
    {scene : Scene W} (hs : scene.world = w) : (work.runIn scene).1 = r := (h scene hs).1

theorem world_eq {work : Work W α} {r : Except Failure α} (h : work.Gives w r v)
    {scene : Scene W} (hs : scene.world = w) : (work.runIn scene).2.world = v := (h scene hs).2

theorem pure (a : α) : (Pure.pure a : Work W α).Gives w (.ok a) w := Takes.pure a

theorem throw (e : Failure) : (MonadExcept.throw e : Work W α).Gives w (.error e) w := Takes.throw e

theorem ofExcept (r : Except Failure α) : (Work.ofExcept r : Work W α).Gives w r w := Takes.ofExcept r

theorem world : (Work.world : Work W W).Gives w (.ok w) w := fun _ hs => ⟨congrArg _ hs, hs⟩

theorem change (f : W → W) : (Work.change f).Gives w (.ok ()) (f w) := fun _ hs => ⟨rfl, congrArg f hs⟩

theorem write (record : Record) : (Work.write record : Work W Unit).Gives w (.ok ()) w :=
  fun _ hs => ⟨rfl, hs⟩

theorem writeAll (records : List Record) : (Work.writeAll records : Work W Unit).Gives w (.ok ()) w :=
  fun _ hs => ⟨rfl, hs⟩

theorem log (channel : String) (level : Level) (message : String) :
    (Work.log channel level message : Work W Unit).Gives w (.ok ()) w := write _

theorem bind {x : Work W α} {f : α → Work W β} {a : α} {r : Except Failure β}
    (hx : x.Gives w (.ok a) v) (hf : (f a).Gives v r u) : (x >>= f).Gives w r u := Takes.bind hx hf

/-- Work that goes on in one way, however much time has passed. -/
theorem bind_elapsed {f : Float → Work W α} {r : Except Failure α} (h : ∀ seconds, (f seconds).Gives w r v) :
    (Work.elapsed >>= f).Gives w r v := by
  intro scene hs
  have hrun : (Work.elapsed >>= f).runIn scene = (f scene.elapsed).runIn scene := rfl
  rw [hrun]
  exact h scene.elapsed scene hs

theorem bind_error {x : Work W α} {f : α → Work W β} {e : Failure}
    (hx : x.Gives w (.error e) v) : (x >>= f).Gives w (.error e) v := Takes.bind_error hx

/-- Work that leaves the world as it is, followed by work whose result is a function of what it found. -/
theorem bind_steady {x : Work W α} {f : α → Work W β} {r : Except Failure α}
    {g : α → Except Failure β} (hx : x.Gives w r w) (hf : ∀ a, r = .ok a → (f a).Gives w (g a) w) :
    (x >>= f).Gives w (r >>= g) w := Takes.bind_steady hx hf

theorem tell (channel : String) (level : Level) (text : Except Failure String) :
    (Work.tell channel level text : Work W Unit).Gives w (text.map fun _ => ()) w := by
  cases text with
  | ok _ => exact (ofExcept _).bind (log _ _ _)
  | error _ => exact (ofExcept _).bind_error

theorem tell_ok {channel : String} {level : Level} {text : Except Failure String} {message : String}
    (h : text = .ok message) : (Work.tell channel level text : Work W Unit).Gives w (.ok ()) w := by
  have htell := tell (w := w) channel level text
  rwa [h] at htell ⊢

theorem tell_error {channel : String} {level : Level} {text : Except Failure String} {e : Failure}
    (h : text = .error e) : (Work.tell channel level text : Work W Unit).Gives w (.error e) w := by
  have htell := tell (w := w) channel level text
  rwa [h] at htell ⊢

/-- Work that branches gives what the branch gives that is taken. -/
theorem ite {p : Prop} [Decidable p] {x y : Work W α} {r s : Except Failure α} (hx : p → x.Gives w r v)
    (hy : ¬ p → y.Gives w s v) : (if p then x else y).Gives w (if p then r else s) v := by
  by_cases h : p
  · rw [if_pos h, if_pos h]
    exact hx h
  · rw [if_neg h, if_neg h]
    exact hy h

theorem catch_ok {x : Work W α} {h : Failure → Work W α} {a : α}
    (hx : x.Gives w (.ok a) v) : (tryCatch x h).Gives w (.ok a) v := Takes.catch_ok hx

theorem catch_error {x : Work W α} {h : Failure → Work W α} {e : Failure} {r : Except Failure α}
    (hx : x.Gives w (.error e) v) (hh : (h e).Gives v r u) : (tryCatch x h).Gives w r u :=
  Takes.catch_error hx hh

end Gives

/-- From the world `w` the work gives `result` and leads to a world of some kind. -/
def Stays (kind : W → Prop) (work : Work W α) (w : W) (result : Except Failure α) : Prop :=
  ∃ after, kind after ∧ work.Gives w result after

namespace Stays

variable {kind : W → Prop}

theorem of_gives {x : Work W α} {r : Except Failure α} (hw : kind w) (hx : x.Gives w r w) : x.Stays kind w r :=
  ⟨w, hw, hx⟩

theorem bind {x : Work W α} {f : α → Work W β} {a : α} {r : Except Failure β} (hx : x.Stays kind w (.ok a))
    (hf : ∀ after, kind after → (f a).Stays kind after r) : (x >>= f).Stays kind w r := by
  obtain ⟨v, hv, hx⟩ := hx
  obtain ⟨u, hu, hf⟩ := hf v hv
  exact ⟨u, hu, hx.bind hf⟩

theorem bind_error {x : Work W α} {f : α → Work W β} {e : Failure} (hx : x.Stays kind w (.error e)) :
    (x >>= f).Stays kind w (.error e) := by
  obtain ⟨v, hv, hx⟩ := hx
  exact ⟨v, hv, hx.bind_error⟩

/-- Work that leaves the world as it is, followed by work whose result is a function of what it found. -/
theorem bind_steady {x : Work W α} {f : α → Work W β} {r : Except Failure α} {g : α → Except Failure β}
    (hw : kind w) (hx : x.Gives w r w) (hf : ∀ a, r = .ok a → (f a).Stays kind w (g a)) :
    (x >>= f).Stays kind w (r >>= g) := by
  cases r with
  | error e => exact ⟨w, hw, hx.bind_error⟩
  | ok a =>
    obtain ⟨after, hafter, hf⟩ := hf a rfl
    exact ⟨after, hafter, hx.bind hf⟩

end Stays
end ObjectIntake.Work
