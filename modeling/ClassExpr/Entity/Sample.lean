/-
The vocabulary that is used when none is given: pizzas, their parts and
where they come from.
-/
import ClassExpr.Entity.Basic

namespace ClassExpr

/-- Entities of one kind with a common base IRI. -/
def named (kind : EntityKind) (base : String) (names : List String) : Vocabulary :=
  names.map fun name => ⟨kind, base.toList ++ name.toList⟩

def sampleVocabulary : Vocabulary :=
  let pizza := "http://www.co-ode.org/ontologies/pizza/pizza.owl#"
  let schema := "http://www.w3.org/2001/XMLSchema#"
  named .cls pizza
      ["Pizza", "PizzaBase", "PizzaTopping", "CheeseTopping", "MeatTopping",
       "MozzarellaTopping", "MushroomTopping", "PepperoniSausageTopping", "TomatoTopping",
       "VegetableTopping", "VegetarianPizza", "SpicyPizza", "ThinAndCrispyBase",
       "DeepPanBase", "Country"] ++
    named .objectProperty pizza
      ["hasBase", "hasTopping", "hasIngredient", "hasCountryOfOrigin", "isToppingOf"] ++
    named .dataProperty pizza ["hasCalorificContentValue"] ++
    named .individual pizza ["America", "England", "France", "Germany", "Italy"] ++
    named .datatype schema ["integer", "string", "boolean", "decimal"]

end ClassExpr
