import Blueprint.CommandLine.Disk
import Blueprint.Json.Reader
import Blueprint.Main
import Blueprint.Proofs.Builder.Refused
import Blueprint.Proofs.Builder.Tokens
import Blueprint.Proofs.Compile.Content
import Blueprint.Proofs.Compile.Editables
import Blueprint.Proofs.Compile.Names
import Blueprint.Proofs.Compile.Redeclared
import Blueprint.Proofs.Compile.Reordered
import Blueprint.Proofs.Compile.Slots
import Blueprint.Proofs.Compile.Stages
import Blueprint.Proofs.Compile.Strict
import Blueprint.Proofs.Editable.Complete
import Blueprint.Proofs.Entity.Conflicts
import Blueprint.Proofs.Graph.Answers
import Blueprint.Proofs.Graph.Kinds
import Blueprint.Proofs.Json.Printed
import Blueprint.Proofs.Macro.Scan
import Blueprint.Proofs.Module.Cycles
import Blueprint.Proofs.Module.Params
import Blueprint.Proofs.Module.Placeholder
import Blueprint.Proofs.Module.Places
import Blueprint.Proofs.Module.Steps
import Blueprint.Proofs.Variable.Payload
