import RuntimeTemplates.Runtime.Privilege

/-!
# RuntimeTemplates.Governance.Powers

What a referendum can do, by the track that it was decided on.

* `referendum_powers`: only the first two tracks lead to root. The others pass the checks of their
  own origin and no others, and move no funds.
-/

namespace RuntimeTemplates
namespace Governance

open RuntimeTemplates.Runtime

variable {t : Template} {env : Environment t}

theorem whitelisted_leads_to_root {o : Origin t} (h : mayDispatchWhitelisted o.caller = true) :
    ∃ c y, Leads env (o, c) y ∧ isRoot y.1.caller = true := by
  refine ⟨.whitelist (.dispatchWhitelistedCallWithPreimage remark), (.fresh .root, remark), ?_, rfl⟩
  refine Descent.inside_head ?_ (Descent.inside_refl _)
  simp [reached, h]

theorem limited_track {x : CustomOrigin} (h : (spendLimit t x).isSome = true) :
    customTrack x ∈ [11, 30, 31, 32, 33, 34] := by
  cases x <;> first | decide | cases h

/-- Whatever is dispatched for a referendum, with calls in calls: root is only reached from the
first two tracks. The calls that one of the other tracks dispatches, down to the last, pass no check
but that of a treasurer or of a spender, and these on their own tracks only; and they move no
funds. -/
theorem referendum_powers (t : Template) (env : Environment t) (o : t.RuntimeOrigin) (id : UInt16)
    (h : trackFor o = .ok id) :
    ((∃ c y, Leads env (.fresh o, c) y ∧ isRoot y.1.caller = true) ↔ id = 0 ∨ id = 1) ∧
      (id ≠ 0 → id ≠ 1 → ∀ c,
        (∀ y, Leads env (.fresh o, c) y → ∀ check : Check, check.admits y.1 = true →
          (check = .treasuryReject ∧ id = 11) ∨
            (check = .spend ∧ id ∈ [11, 30, 31, 32, 33, 34])) ∧
          ∀ moved, .done moved ∈ dispatch env (.fresh o) c → moved = []) := by
  rcases trackFor_cases h with ⟨rfl, rfl⟩ | ⟨x, rfl, rfl⟩
  · exact ⟨iff_of_true (whitelisted_leads_to_root rfl) (.inl rfl), fun h0 => absurd rfl h0⟩
  · by_cases hx : x = .whitelistedCaller
    · subst hx
      exact ⟨iff_of_true (whitelisted_leads_to_root rfl) (.inr rfl), fun _ h1 => absurd rfl h1⟩
    · have hw : mayDispatchWhitelisted (Origin.fresh (t := t) (.origins x)).caller = false := by
        cases x <;> first | rfl | exact absurd rfl hx
      refine ⟨iff_of_false ?_ ?_, fun _ _ c => ⟨?_, ?_⟩⟩
      · rintro ⟨c, y, hy, hroot⟩
        rw [leads_caller rfl hw hy] at hroot
        cases hroot
      · rintro (h0 | h1)
        · exact customTrack_ne_zero x h0
        · exact hx (customTrack_injective h1)
      · intro y hy check hadmits
        rcases (admits_custom_iff check (leads_caller rfl hw hy)).mp hadmits with
          ⟨-, hx'⟩ | ⟨hcheck, hx'⟩ | ⟨hcheck, hlimit⟩
        · exact absurd hx' hx
        · exact .inl ⟨hcheck, by rw [hx']; rfl⟩
        · exact .inr ⟨hcheck, limited_track hlimit⟩
      · exact fun _ => moved_of_unprivileged rfl hw (by nofun)

theorem small_spender_powers :
    (∀ y, Leads (openEnvironment .evm) (.fresh (.origins .smallSpender),
        .utility (.batch [.balances (.transferAll 2), .referenda (.other (rootCall true))])) y →
      ∀ check : Check, check.admits y.1 = true →
        (check = .treasuryReject ∧ (32 : UInt16) = 11) ∨
          (check = .spend ∧ (32 : UInt16) ∈ [11, 30, 31, 32, 33, 34])) ∧
    ∀ moved, .done moved ∈ dispatch (openEnvironment .evm) (.fresh (.origins .smallSpender))
        (.utility (.batch [.balances (.transferAll 2), .referenda (.other (rootCall true))])) →
      moved = [] :=
  (referendum_powers .evm (openEnvironment .evm) (.origins .smallSpender) 32 rfl).2 (by decide)
    (by decide) (.utility (.batch [.balances (.transferAll 2), .referenda (.other (rootCall true))]))

end Governance
end RuntimeTemplates
