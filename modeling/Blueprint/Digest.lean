import Blueprint.Hash.Blake3
import Blueprint.Json.Printer

/-!
# Digests

Digests of texts and of documents in their compact form; the order of fields counts.
-/

namespace Blueprint

def digestBytes (bytes : List UInt8) : String := "blake3:" ++ Hash.hex (Hash.Blake3.hash bytes)

def digestText (s : String) : String := digestBytes s.toUTF8.toList

def Json.digest (j : Json) : String := digestText j.compact

end Blueprint
