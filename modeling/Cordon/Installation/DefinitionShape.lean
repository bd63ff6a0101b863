import Cordon.Kube.Shapes.Meta

/-! # The shape of resource definitions

A definition of a resource names it and holds, for each version in which it is served, the schema of
its objects. Schemas are made of schemas.
-/

namespace Cordon.Installation

open Json (Shape)
open Json.Shape
open Kube (conditionShape objectShape)

/-! ## Schemas -/

def validationShape : Shape := .table "ValidationRule" [(.text, ["rule"])] [(.text, ["message"])]

/-- Schemas that are nested up to some depth; what is nested deeper is any value. -/
def schemaShape : Nat → Shape
  | 0 => .any
  | depth + 1 =>
    let inner := schemaShape depth
    .table "JSONSchemaProps" []
      [(.text, ["$ref", "$schema", "description", "format", "id", "pattern", "title", "type",
         "x-kubernetes-list-type", "x-kubernetes-map-type"]),
       (.boolOr inner, ["additionalItems", "additionalProperties"]),
       (.list inner, ["allOf", "anyOf", "oneOf"]),
       (.any, ["default", "example"]),
       (.map inner, ["definitions", "patternProperties", "properties"]),
       (.map (.listOr .text inner), ["dependencies"]),
       (.list .any, ["enum"]),
       (.bool, ["exclusiveMaximum", "exclusiveMinimum", "nullable", "uniqueItems",
         "x-kubernetes-embedded-resource", "x-kubernetes-int-or-string",
         "x-kubernetes-preserve-unknown-fields"]),
       (.table "ExternalDocumentation" [] [(.text, ["description", "url"])], ["externalDocs"]),
       (.listOr inner inner, ["items"]),
       (.int64, ["maxItems", "maxLength", "maxProperties", "minItems", "minLength",
         "minProperties"]),
       (.number, ["maximum", "minimum", "multipleOf"]),
       (inner, ["not"]),
       (.list .text, ["required", "x-kubernetes-list-map-keys"]),
       (.list validationShape, ["x-kubernetes-validations"])]

/-- Deeper than this no text is nested that can be read. -/
def schemaDepth : Nat := 128

/-! ## Definitions -/

def namesShape : Shape :=
  .table "CustomResourceDefinitionNames"
    [(.text, ["kind", "plural"])]
    [(.list .text, ["categories", "shortNames"]), (.text, ["listKind", "singular"])]

def columnShape : Shape :=
  .table "CustomResourceColumnDefinition"
    [(.text, ["jsonPath", "name", "type"])]
    [(.text, ["description", "format"]), (.int32, ["priority"])]

/-- The parts of a resource that have paths of their own. -/
def subresourcesShape : Shape :=
  .table "CustomResourceSubresources" []
    [(.table "CustomResourceSubresourceScale"
        [(.text, ["specReplicasPath", "statusReplicasPath"])]
        [(.text, ["labelSelectorPath"])], ["scale"]),
     (.any, ["status"])]

def servedVersionShape : Shape :=
  .table "CustomResourceDefinitionVersion"
    [(.text, ["name"]), (.bool, ["served", "storage"])]
    [(.list columnShape, ["additionalPrinterColumns"]),
     (.bool, ["deprecated"]),
     (.text, ["deprecationWarning"]),
     (.table "CustomResourceValidation" [] [(schemaShape schemaDepth, ["openAPIV3Schema"])],
       ["schema"]),
     (subresourcesShape, ["subresources"])]

/-- How objects are turned from one version into another. -/
def conversionShape : Shape :=
  .table "CustomResourceConversion"
    [(.text, ["strategy"])]
    [(.table "WebhookConversion"
        [(.list .text, ["conversionReviewVersions"])]
        [(.table "WebhookClientConfig" []
            [(.bytes, ["caBundle"]),
             (.table "ServiceReference"
                [(.text, ["name", "namespace"])]
                [(.text, ["path"]), (.int32, ["port"])], ["service"]),
             (.text, ["url"])], ["clientConfig"])], ["webhook"])]

def definitionSpecShape : Shape :=
  .table "CustomResourceDefinitionSpec"
    [(.text, ["group", "scope"]), (namesShape, ["names"]), (.list servedVersionShape, ["versions"])]
    [(conversionShape, ["conversion"]), (.bool, ["preserveUnknownFields"])]

def definitionStatusShape : Shape :=
  .table "CustomResourceDefinitionStatus" []
    [(namesShape, ["acceptedNames"]),
     (.list (conditionShape "CustomResourceDefinitionCondition" ["lastTransitionTime"]),
       ["conditions"]),
     (.list .text, ["storedVersions"])]

def definitionShape : Shape :=
  objectShape "apiextensions.k8s.io/v1" "CustomResourceDefinition"
    [(definitionSpecShape, ["spec"])]
    [(definitionStatusShape, ["status"])]

end Cordon.Installation
