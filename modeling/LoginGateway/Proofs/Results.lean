namespace LoginGateway

@[simp] theorem ok_bind {ε α β : Type} (value : α) (next : α → Except ε β) :
    (Except.ok value >>= next) = next value := rfl

@[simp] theorem error_bind {ε α β : Type} (error : ε) (next : α → Except ε β) :
    (Except.error error >>= next) = .error error := rfl

@[simp] theorem map_ok {ε α β : Type} (value : α) (f : α → β) :
    Except.map f (.ok value : Except ε α) = .ok (f value) := rfl

theorem of_bind_ok {ε α β : Type} {step : Except ε α} {next : α → Except ε β} {value : β}
    (done : step >>= next = .ok value) : ∃ middle, step = .ok middle ∧ next middle = .ok value := by
  cases step with
  | error error => cases done
  | ok middle => exact ⟨middle, rfl, done⟩

theorem of_map_ok {ε α β : Type} {step : Except ε α} {f : α → β} {value : β} (done : step.map f = .ok value) :
    ∃ middle, step = .ok middle ∧ f middle = value := by
  cases step with
  | error error => cases done
  | ok middle => exact ⟨middle, rfl, Except.ok.inj done⟩

theorem of_map_eq {ε α β : Type} {step other : Except ε α} {f : α → β} (same : step.map f = other.map f) :
    (∃ error, step = .error error ∧ other = .error error) ∨
    ∃ value value', step = .ok value ∧ other = .ok value' ∧ f value = f value' := by
  cases step with
  | error error =>
    cases other with
    | error error' =>
      cases same
      exact .inl ⟨error, rfl, rfl⟩
    | ok value' => cases same
  | ok value =>
    cases other with
    | error error' => cases same
    | ok value' => exact .inr ⟨value, value', rfl, rfl, Except.ok.inj same⟩

theorem map_bind_eq {ε α β γ δ : Type} {step other : Except ε α} {next : α → Except ε γ} {view : α → β} {f : γ → δ}
    (same : step.map view = other.map view)
    (after : ∀ value value', view value = view value' → (next value).map f = (next value').map f) :
    (step >>= next).map f = (other >>= next).map f := by
  rcases of_map_eq same with ⟨error, failed, failed'⟩ | ⟨value, value', done, done', alike⟩
  · rw [failed, failed', error_bind]
  · rw [done, done', ok_bind, ok_bind]
    exact after value value' alike

inductive Agree {ε α β : Type} (alike : ε → ε → Prop) (view : α → β) : Except ε α → Except ε α → Prop where
  | error {error other : ε} (same : alike error other) : Agree alike view (.error error) (.error other)
  | ok {value other : α} (same : view value = view other) : Agree alike view (.ok value) (.ok other)

theorem Agree.refl {ε α β : Type} {alike : ε → ε → Prop} {view : α → β} (each : ∀ error, alike error error)
    (outcome : Except ε α) : Agree alike view outcome outcome := by
  cases outcome with
  | error error => exact .error (each error)
  | ok value => exact .ok rfl

theorem of_mapError_ok {ε δ α : Type} {step : Except ε α} {f : ε → δ} {value : α}
    (done : step.mapError f = .ok value) : step = .ok value := by
  cases step with
  | error error => cases done
  | ok middle => exact congrArg Except.ok (Except.ok.inj done)

theorem mapM_map_ok {α β ε : Type} {read : β → Except ε α} {written : α → β} {items : List α}
    (each : ∀ item ∈ items, read (written item) = .ok item) : (items.map written).mapM read = .ok items := by
  induction items with
  | nil => rfl
  | cons item items ih =>
    have ⟨first, others⟩ := List.forall_mem_cons.mp each
    rw [List.map_cons, List.mapM_cons, first, ih others]
    rfl

theorem of_mapM_ok {ε α β : Type} {read : α → Except ε β} {items : List α} {values : List β}
    (done : items.mapM read = .ok values) : ∀ value ∈ values, ∃ item, read item = .ok value := by
  induction items generalizing values with
  | nil =>
    cases done
    simp
  | cons item items ih =>
    rw [List.mapM_cons] at done
    obtain ⟨first, readFirst, done⟩ := of_bind_ok done
    obtain ⟨others, readOthers, done⟩ := of_bind_ok done
    cases done
    intro value member
    rcases List.mem_cons.mp member with rfl | member
    · exact ⟨item, readFirst⟩
    · exact ih readOthers value member

theorem each_of_mapM_ok {ε α β : Type} {read : α → Except ε β} {items : List α} {values : List β}
    (done : items.mapM read = .ok values) : ∀ item ∈ items, ∃ value, read item = .ok value := by
  induction items generalizing values with
  | nil => simp
  | cons first items ih =>
    rw [List.mapM_cons] at done
    obtain ⟨value, readFirst, done⟩ := of_bind_ok done
    obtain ⟨others, readOthers, -⟩ := of_bind_ok done
    intro item member
    rcases List.mem_cons.mp member with rfl | member
    · exact ⟨value, readFirst⟩
    · exact ih readOthers item member

end LoginGateway
