/-!
# The arithmetic that is meant

Powers of numbers and sums of lists are those of the core library, also where a library of
algebra that has instances of its own is imported.  So what is defined here means the same to
every module that uses it.
-/

-- The default instance for powers in a monoid has the priority `high`.
attribute [instance (high), default_instance 20000] instPowNat

attribute [instance (high)] Zero.ofOfNat0
