import MeshTelemetry.Proofs.Naming.Adding

/-!
# MeshTelemetry.Proofs.Naming.Scan

The rules are kept in a group for each service. Names are still given as if they stood in one list,
in the order in which they were added, and were tried one after the other.

* `Naming.Scans`: names are given as by a scan over a list.
* `Naming.addAll_scans`: so they are after any additions, and for any configuration.
-/

namespace MeshTelemetry
namespace Naming

open Config

/-- Names are given as by a scan over a list: an endpoint gets the name of the first rule of its
service that applies to it. If the rules of the service are sound, this is the first whose pattern
matches the endpoint as a whole. -/
structure Scans (n : Naming) (added : List Addition) : Prop where
  rules : n.ruleCount = added.length
  applies : ∀ service endpoint, FirstNamed (·.applies endpoint = true)
    (Addition.rulesOf added service) (n.rename? service endpoint)
  spans : ∀ service, (∀ r ∈ Addition.rulesOf added service, r.Sound) → ∀ endpoint,
    FirstNamed (·.Spans endpoint) (Addition.rulesOf added service) (n.rename? service endpoint)

theorem scans_addAll (additions : List Addition) :
    (addAll additions empty).2.Scans (addAll additions empty).1 := by
  obtain ⟨hrules, hnames⟩ := addAll_grown additions empty
  have hscan : ∀ service endpoint, (addAll additions empty).2.rename? service endpoint =
      firstName? (Addition.rulesOf (addAll additions empty).1 service) endpoint := hnames
  refine ⟨hrules.trans (Nat.zero_add _), fun service endpoint => ?_,
    fun service hs endpoint => ?_⟩
  · rw [hscan]
    exact firstName?_named fun _ _ => Iff.rfl
  · rw [hscan]
    refine firstName?_named fun r hr => NamingRule.applies_iff_spans ?_ (hs r hr) endpoint
    obtain ⟨a, ha, rfl⟩ := List.mem_map.mp hr
    have hadded := (List.mem_filter.mp ha).1
    rw [addAll_added] at hadded
    exact of_decide_eq_true (List.mem_filter.mp hadded).2

/-- After any additions to any services, whether they succeed or not, names are given as by a scan
over those that succeeded, which are the ones with a pattern that compiles. The rules of a
configuration are all of its rules, added in the order in which they are listed; they are rejected
exactly if there is one that does not compile, and then the first such rule is named. -/
theorem addAll_scans (additions : List Addition) (services : List ServiceRules) :
    ((addAll additions empty).1 = additions.filter (·.rule.Compiles) ∧
        (addAll additions empty).2.Scans (addAll additions empty).1) ∧
      (∀ n, ofServices services = .ok n → n.Scans (Config.additions services)) ∧
      ∀ v, ofServices services = .error v ↔ ∃ before a after cause,
        Config.additions services = before ++ a :: after ∧ (∀ b ∈ before, b.rule.Compiles) ∧
          Regex.compileFullMatch a.rule.pattern = .error cause ∧
          v = .uncompiledPattern a.service a.rule.name cause := by
  rw [ofServices_eq]
  refine ⟨⟨addAll_added additions empty, scans_addAll additions⟩, fun n hn => ?_,
    fun v => addWhole_error_iff⟩
  obtain ⟨hall, rfl⟩ := addWhole_ok_iff.mp hn
  have hscans := scans_addAll (Config.additions services)
  rwa [addAll_whole hall] at hscans

/-- The first rule that matches counts, although a later one does so too. -/
theorem addAll_scans_shop :
    let n := (addAll shopAdditions empty).2
    n.ruleCount = 3 ∧ n.rename? "shop" "/items/7" = some "item" ∧
      (∀ r ∈ Addition.rulesOf (addAll shopAdditions empty).1 "shop", r.Sound) ∧
      FirstNamed (·.Spans "/items/7") (Addition.rulesOf (addAll shopAdditions empty).1 "shop")
        (some "item") := by
  intro n
  obtain ⟨⟨-, hscans⟩, -, -⟩ := addAll_scans shopAdditions []
  have hname : n.rename? "shop" "/items/7" = some "item" := by decide +kernel
  have hadded : (addAll shopAdditions empty).1.length = 3 := by decide +kernel
  have hsound : ∀ r ∈ Addition.rulesOf (addAll shopAdditions empty).1 "shop", r.Sound := by
    have hrules : Addition.rulesOf (addAll shopAdditions empty).1 "shop" =
        [⟨"item", "/items/[0-9]+"⟩, ⟨"path", "/.*"⟩] := by decide +kernel
    have hparsed : ∀ {pattern}, (Regex.Pattern.parse pattern).isOk = true →
        Regex.Pattern.parse pattern ≠ .error .groupUnopened := by
      intro pattern hok herror
      rw [herror] at hok
      cases hok
    rw [hrules, List.forall_mem_cons, List.forall_mem_singleton]
    exact ⟨⟨hparsed (by decide +kernel), by decide +kernel⟩,
      hparsed (by decide +kernel), by decide +kernel⟩
  have hfirst := hscans.spans "shop" hsound "/items/7"
  rw [hname] at hfirst
  exact ⟨hscans.rules.trans hadded, hname, hsound, hfirst⟩

/-- A rule that closes a group that it never opened is added, and gives its name to an endpoint that
no rule of the service matches as a whole. -/
theorem rename?_loose :
    let loose : List Addition := [⟨"shop", ⟨"ab", "a)|(?:b"⟩⟩]
    (addAll loose empty).1 = loose ∧ (∀ r ∈ Addition.rulesOf loose "shop", ¬ r.Spans "ax") ∧
      (addAll loose empty).2.rename? "shop" "ax" = some "ab" := by
  intro loose
  refine ⟨by decide +kernel, ?_, by decide +kernel⟩
  rintro r hr ⟨e, he, -⟩
  cases List.mem_singleton.mp hr
  have hopen : Regex.exprOf "a)|(?:b" = .error .groupUnopened := by decide +kernel
  rw [hopen] at he
  cases he

end Naming
end MeshTelemetry
