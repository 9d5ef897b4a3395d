import Matchday.Rule.Diagnostic
import Matchday.Rule.Shape

/-!
# Rules for a site and its navigation

## Main definitions

* `SiteRule`, `NavigationRule`: the rules that look at the whole site or at its navigation block.
* `SiteRule.check`, `NavigationRule.check`: the violations of a rule.
-/

namespace Matchday

/-- A rule that looks at a whole site. -/
inductive SiteRule where
  | uniqueCountryNames
  | navigationTargetsExist
  | countriesListedInNavigation
deriving DecidableEq, Repr

namespace SiteRule

/-- The code of a rule about sites. -/
def code : SiteRule → RuleCode
  | uniqueCountryNames => ⟨1⟩
  | navigationTargetsExist => ⟨4⟩
  | countriesListedInNavigation => ⟨12⟩

/-- The name of a rule about sites. -/
def name : SiteRule → String
  | uniqueCountryNames => "unique-country-names"
  | navigationTargetsExist => "navigation-targets-exist"
  | countriesListedInNavigation => "countries-listed-in-navigation"

/-- What a rule reports, position and text.  The second and the third rule together make the
navigation and the countries name each other. -/
def findings (s : Site) : SiteRule → List (Position × String)
  | uniqueCountryNames =>
    (Shape.repeats (·.name) s.countries).map fun c =>
      (c.pos, s!"Duplicate country name '{c.name}' at {c.pos.text}. Country names must be unique.")
  | navigationTargetsExist =>
    (s.navigation.items.filter fun i => !s.countryNames.contains i.name).map fun i =>
      (i.pos, s!"Navigation item '{i.name}' at {i.pos.text} does not match any declared country.")
  | countriesListedInNavigation =>
    (s.countries.filter fun c => !(s.navigation.items.map (·.name)).contains c.name).map fun c =>
      (c.pos, s!"Country '{c.name}' at {c.pos.text} is not listed in the navigation block.")

/-- What a rule reports about a site. -/
def check (r : SiteRule) (s : Site) : List Diagnostic :=
  (findings s r).map fun (pos, message) => ⟨r.code, message, pos⟩

/-- The rule as one of a set of rules. -/
def asRule (r : SiteRule) : NodeRule Site where
  code := r.code
  name := r.name
  check := r.check

end SiteRule

/-- A rule that looks at the navigation block. -/
inductive NavigationRule where
  | noDuplicateItems
  | notEmpty
deriving DecidableEq, Repr

namespace NavigationRule

/-- The code of a rule about navigation blocks. -/
def code : NavigationRule → RuleCode
  | noDuplicateItems => ⟨10⟩
  | notEmpty => ⟨18⟩

/-- The name of a rule about navigation blocks. -/
def name : NavigationRule → String
  | noDuplicateItems => "no-duplicate-navigation-items"
  | notEmpty => "navigation-not-empty"

/-- What a rule reports, position and text. -/
def findings (n : Navigation) : NavigationRule → List (Position × String)
  | noDuplicateItems =>
    (Shape.repeats (·.name) n.items).map fun i =>
      (i.pos, s!"Duplicate navigation item '{i.name}' at {i.pos.text}. " ++
        "Each country should appear at most once in navigation.")
  | notEmpty =>
    if n.items.isEmpty then
      [(n.pos, s!"Navigation block at {n.pos.text} is empty. At least one country must be listed.")]
    else []

/-- What a rule reports about a navigation block. -/
def check (r : NavigationRule) (n : Navigation) : List Diagnostic :=
  (findings n r).map fun (pos, message) => ⟨r.code, message, pos⟩

/-- The rule as one of a set of rules. -/
def asRule (r : NavigationRule) : NodeRule Navigation where
  code := r.code
  name := r.name
  check := r.check

end NavigationRule

end Matchday
