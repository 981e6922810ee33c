import MockScaffold.Decoding.Record
import MockScaffold.Json.Printer

namespace MockScaffold
open Decoding

/-- The mocking framework that generated code is written for. -/
inductive Mocker where
  | mockito
  | mockK
  deriving DecidableEq, Repr, Inhabited

namespace Mocker

def name : Mocker → String
  | .mockito => "mockito"
  | .mockK => "mockk"

/-- All frameworks, in the order in which messages list them. -/
def all : List Mocker := [.mockito, .mockK]

/-- The letter that a character becomes in lower case, where that is an ASCII letter: besides the
ASCII letters only the Kelvin sign has one. Other characters stay, as no name holds them. -/
def lowerLetter (c : Char) : Char := if c = '\u212A' then 'k' else c.toLower

/-- The framework that a text names, in any case. -/
def ofName? (text : String) : Option Mocker :=
  all.find? fun mocker => mocker.name.toList = text.toList.map lowerLetter

/-- The Kelvin sign is a capital k, but a capital I with a dot is no capital i. -/
example : ["MOCKITO", "moc\u212Ak", "mock\u0130to", "jmock"].map ofName? =
    [some mockito, some mockK, none, none] := by decide +kernel

/-- Decodes the name of a framework. -/
def decode : Decoder Mocker := fun document => do
  let text ← string document
  match ofName? text with
  | some mocker => .ok mocker
  | none => .error (.unknownName text (all.map name))

end Mocker

/-- The settings of a run. -/
structure Configuration where
  mocker : Mocker := .mockK
  /-- The name of the instance under test. -/
  classUnderTest : String := "cut"
  /-- The name of the variable for the result under test. -/
  actualValue : String := "actualValue"
  /-- The statement that stands where the result is to be checked. -/
  defaultAssertion : String := "assertEquals(expected, actualValue)"
  deriving DecidableEq, Repr, Inhabited

namespace Configuration

def defaults : Configuration := {}

/-- Every setting may be left out. -/
def shape : Shape Configuration where
  name := "Configuration"
  blank := defaults
  fields :=
    [.defaulted "mocker" Mocker.decode fun mocker c => { c with mocker },
     .defaulted "class_under_test" string fun classUnderTest c => { c with classUnderTest },
     .defaulted "actual_value" string fun actualValue c => { c with actualValue },
     .defaulted "default_assertion" string fun defaultAssertion c => { c with defaultAssertion }]

def ofText (text : String) : Except DecodeError Configuration :=
  Decoding.ofText shape.decode text

def toJson (c : Configuration) : Json :=
  .object
    [("mocker", .string c.mocker.name),
     ("class_under_test", .string c.classUnderTest),
     ("actual_value", .string c.actualValue),
     ("default_assertion", .string c.defaultAssertion)]

/-- The text that states a configuration, one setting per line. -/
def text (c : Configuration) : String := c.toJson.pretty

end Configuration
end MockScaffold
