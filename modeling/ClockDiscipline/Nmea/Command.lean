import ClockDiscipline.Text.Latin

/-!
Commands that prepare the receiver. They are sent in this order, and end the way the
receiver expects, with a comma between carriage return and line feed.
-/

namespace ClockDiscipline.Nmea

/-- Silence all sentences, set the receiver's parameters in two steps, ask for `$GPRMC`
alone. -/
def initialisation : List (List UInt8) :=
  [ "$PGRMO,,2\r,\n",
    "$PGRMC,A,,,,,,,,A,3,,2,4,\r,\n",
    "$PGRMC1,1,1,,,,,1,A,N,,,,2,\r,\n",
    "$PGRMO,GPRMC,1\r,\n" ].map Text.Latin.encode

end ClockDiscipline.Nmea
