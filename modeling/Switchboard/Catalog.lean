import Switchboard.Routing.Tables
import Switchboard.Text.Case

namespace Switchboard

/-!
Checking model names against a catalog.

A model name is a provider and, behind the first slash, the name that the provider knows the model
by.  A catalog lists the names of some providers; gateways pass on what no catalog can list, so
their names are not looked up.  Neither are the names of a provider without a list.  Letter case
does not count.
-/

/-- The model names of providers. -/
abbrev Catalog := List (Text × List Text)

/-- What is wrong with a model name. -/
inductive ModelFault where
  | noProvider
  | unknownProvider (provider : Text)
  | unknownModel (provider model : Text)
deriving Repr, DecidableEq

/-- The wording of a fault. -/
def ModelFault.message : ModelFault -> String
  | noProvider => "Expected model format 'provider/model-name'."
  | unknownProvider provider => s!"Unknown provider '{provider.toStr}'."
  | unknownModel provider model =>
      s!"Model '{model.toStr}' not found in LiteLLM's '{provider.toStr}' catalog."

namespace Catalog

/-- The providers whose models are not looked up. -/
def gateways : List Text :=
  ["openrouter", "bedrock", "azure", "ollama", "ollama_chat", "hosted_vllm",
   "litellm_proxy"].map Text.ofString

/-- Whether one of the names of a provider is the given model name, as a whole or behind its
provider. -/
def lists (names : List Text) (whole model : Text) : Bool :=
  names.any fun name =>
    Text.lower name == Text.lower whole || Text.lower name == Text.lower model

/-- What is wrong with a model name whose provider and model are given. -/
def faultOf? (catalog : Catalog) (whole provider model : Text) : Option ModelFault :=
  match catalog.lookup provider with
  | none => some (.unknownProvider provider)
  | some [] => none
  | some names => if lists names whole model then none else some (.unknownModel provider model)

/-- What is wrong with a model name; without a catalog only its form is checked. -/
def fault? (catalog : Option Catalog) (name : Text) : Option ModelFault :=
  let whole := Text.trim name
  match Text.cutAt? '/' whole with
  | none => some .noProvider
  | some (provider, model) =>
      let provider := Text.lower provider
      if gateways.contains provider then none
      else catalog.bind fun catalog => faultOf? catalog whole provider model

/-- The warning about the model of a tier, if something is wrong with it. -/
def tierWarning? (catalog : Option Catalog) (tables : Tables) (tier : Tier) : Option String :=
  let model := tables.modelOf tier
  (fault? catalog model).map fun fault =>
    s!"{tier.name.toStr}: {model.toStr} - {fault.message}"

/-- The warnings about the models of all tiers. -/
def warnings (catalog : Option Catalog) (tables : Tables) : List String :=
  Tier.all.filterMap (tierWarning? catalog tables)

end Catalog
end Switchboard
